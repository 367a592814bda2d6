import AiHq.Session

/-!
# Approval requests and scoped rules
-/

namespace AiHq

open Concurrent Relational

/-- Whether the rule has been executed as often as it may be. -/
def ScopedApprovalRule.exhausted (rule : ScopedApprovalRule) : Bool :=
  match rule.maxExecutionCount with
  | none => false
  | some limit => limit ≤ rule.executionCount

/-- `hashlib.sha256` is the function that turns a payload into its digest. -/
structure ApprovalService where
  sha256 : String → String

namespace ApprovalService

variable (self : ApprovalService)

def canonicalActionFingerprint (action target : String) (actionPlan : Dict) : String :=
  self.sha256 (String.ofList (Json.dumps (.obj
    [("action", .str action), ("target", .str target), ("action_plan", .obj actionPlan)])))

def createRequestTx (missionId requesterAgent action target : String) (risk : MissionRisk)
    (actionPlan : Dict) (expiresAt : Datetime) (m : Moment) (db : Database) :
    Except PyError (ApprovalRequest × Database) :=
  let request : ApprovalRequest :=
    { id := m.ids 0, missionId, requesterAgent, action, target, risk, actionPlan,
      actionFingerprint := self.canonicalActionFingerprint action target actionPlan, expiresAt }
  match db.approvals.insert? request with
  | none => .error .integrityError
  | some approvals => .ok (request, { db with approvals })

def createRequest (missionId requesterAgent action target : String) (risk : MissionRisk)
    (actionPlan : Dict) (expiresAt : Datetime) : Py ApprovalRequest :=
  .transaction 1
    (self.createRequestTx missionId requesterAgent action target risk actionPlan expiresAt)

def getRequestTx (requestId : String) (db : Database) : Except PyError ApprovalRequest :=
  match db.approvals.get? requestId with
  | none => .error (.keyError ("approval request not found: " ++ requestId))
  | some request => .ok request

def pendingForFingerprint (missionId actionFingerprint : String) :
    Py (Option ApprovalRequest) := do
  let now ← .clock
  .query fun m db =>
    let requests := orderBy (fun r => m.scan r.id) (db.approvals.rows.filter fun r =>
      r.missionId = missionId && r.actionFingerprint = actionFingerprint && r.state = .pending)
    .ok (requests.find? fun r => now < r.expiresAt)

def decideTx (requestId : String) (decision : ApprovalState) (m : Moment) (db : Database) :
    Except PyError (ApprovalRequest × Database) := do
  raiseIf (decision = .pending) (.valueError "approval decision cannot return to pending")
  let request ← getRequestTx requestId db
  raiseIf (request.state ≠ .pending) (.valueError "approval request already decided")
  let request := { request with state := decision, decidedAt := some m.now }
  return (request, { db with approvals := db.approvals.set request })

def decide (requestId : String) (decision : ApprovalState) : Py ApprovalRequest :=
  .session (decideTx requestId decision)

def isApproved (missionId actionFingerprint : String) : Py Bool := do
  let now ← .clock
  .query fun _ db =>
    .ok ((db.approvals.rows.filter fun r => r.missionId = missionId &&
      r.actionFingerprint = actionFingerprint && r.state = .approved).any fun r =>
        now < r.expiresAt)

def createScopedRuleTx (action target : String) (risk : MissionRisk) (conditions : Dict)
    (expiresAt : Datetime) (maxExecutionCount : Option ℤ) (m : Moment) (db : Database) :
    Except PyError (ScopedApprovalRule × Database) :=
  let rule : ScopedApprovalRule :=
    { id := m.ids 0, action, target, risk, conditions, expiresAt, maxExecutionCount }
  match db.rules.insert? rule with
  | none => .error .integrityError
  | some rules => .ok (rule, { db with rules })

def createScopedRule (action target : String) (risk : MissionRisk) (conditions : Dict)
    (expiresAt : Datetime) (maxExecutionCount : Option ℤ) : Py ScopedApprovalRule :=
  .transaction 1 (createScopedRuleTx action target risk conditions expiresAt maxExecutionCount)

/-- Whether the rule is in force at `now` for exactly the given conditions. -/
def applies (rule : ScopedApprovalRule) (conditions : Dict) (now : Datetime) : Bool :=
  Json.pyEq (.obj rule.conditions) (.obj conditions) && now < rule.expiresAt && !rule.exhausted

def matchingScopedRule (action target : String) (risk : MissionRisk) (conditions : Dict) :
    Py (Option ScopedApprovalRule) :=
  if risk = .red then return none
  else do
    let now ← .clock
    .query fun m db =>
      let rules := orderBy (fun r => m.scan r.id) (db.rules.rows.filter fun r =>
        r.action = action && r.target = target && r.risk = risk)
      .ok (rules.find? fun r => applies r conditions now)

def consumeRuleTx (ruleId : String) (now : Datetime) (db : Database) :
    Except PyError (ScopedApprovalRule × Database) :=
  match db.rules.get? ruleId with
  | none => .error (.keyError ("scoped approval rule not found: " ++ ruleId))
  | some rule =>
    if rule.risk ≠ .red ∧ now < rule.expiresAt ∧ !rule.exhausted then
      let rule := { rule with executionCount := rule.executionCount + 1 }
      .ok (rule, { db with rules := db.rules.set rule })
    else if rule.risk = .red then
      .error (.valueError "red actions cannot be authorized by scoped rules")
    else if rule.expiresAt ≤ now then .error (.valueError "scoped approval rule expired")
    else if rule.exhausted then
      .error (.valueError "scoped approval rule execution limit reached")
    else .error (.valueError "scoped approval rule could not be consumed")

/-- The conditional UPDATE shows whether it has consumed the rule. -/
def consumeRule (ruleId : String) : Py ScopedApprovalRule := do
  let now ← .clock
  .session (fun _ => consumeRuleTx ruleId now) fun
    | .ok _ => .ruleConsumed ruleId
    | .error _ => .ruleRefused ruleId

/-! ### What the transactions do -/

variable {self : ApprovalService} {db db' : Database} {m : Moment} {now : Datetime}

/-- A request is refused only if its identifier is taken. -/
lemma createRequestTx_eq_error {missionId requesterAgent action target : String}
    {risk : MissionRisk} {actionPlan : Dict} {expiresAt : Datetime} {e : PyError}
    (h : self.createRequestTx missionId requesterAgent action target risk actionPlan expiresAt m db
      = .error e) : db.approvals.get? (m.ids 0) ≠ none := by
  simp only [createRequestTx] at h
  split at h
  · next hinsert => exact Table.get?_ne_none_of_insert? hinsert
  · cases h

/-- A new request is stored as it was given; nothing else changes. -/
lemma createRequestTx_eq_ok {missionId requesterAgent action target : String} {risk : MissionRisk}
    {actionPlan : Dict} {expiresAt : Datetime} {request : ApprovalRequest}
    (h : self.createRequestTx missionId requesterAgent action target risk actionPlan expiresAt m db
      = .ok (request, db')) :
    request =
      { id := m.ids 0, missionId, requesterAgent, action, target, risk, actionPlan,
        actionFingerprint := self.canonicalActionFingerprint action target actionPlan,
        expiresAt } ∧
    ∃ approvals, db.approvals.insert? request = some approvals ∧ db' = { db with approvals } := by
  simp only [createRequestTx] at h
  split at h
  · cases h
  · next approvals hins =>
    cases h
    exact ⟨rfl, approvals, hins, rfl⟩

lemma getRequestTx_eq_ok {requestId : String} {request : ApprovalRequest} :
    getRequestTx requestId db = .ok request ↔ db.approvals.get? requestId = some request := by
  unfold getRequestTx
  split <;> simp_all

lemma decideTx_eq_ok {requestId : String} {decision : ApprovalState} {request : ApprovalRequest}
    (h : decideTx requestId decision m db = .ok (request, db')) :
    decision ≠ .pending ∧ ∃ old, db.approvals.get? requestId = some old ∧ old.state = .pending ∧
      request = { old with state := decision, decidedAt := some m.now } ∧
      db' = { db with approvals := db.approvals.set request } := by
  simp only [decideTx, bind_eq_ok, raiseIf_eq_ok, getRequestTx_eq_ok] at h
  obtain ⟨_, hd, old, hold, _, hst, h⟩ := h
  cases h
  exact ⟨hd, old, hold, not_not.mp hst, rfl, rfl⟩

/-- The conditional UPDATE adds one to the count of a rule that is in force and not exhausted. -/
lemma consumeRuleTx_eq_ok {ruleId : String} {rule : ScopedApprovalRule}
    (h : consumeRuleTx ruleId now db = .ok (rule, db')) :
    ∃ old, db.rules.get? ruleId = some old ∧ old.exhausted = false ∧ now < old.expiresAt ∧
      rule = { old with executionCount := old.executionCount + 1 } ∧
      db' = { db with rules := db.rules.set rule } := by
  unfold consumeRuleTx at h
  split at h
  · cases h
  · next old hold =>
    split_ifs at h with hc
    cases h
    exact ⟨old, hold, by simpa using hc.2.2, hc.2.1, rfl, rfl⟩

lemma createScopedRuleTx_eq_ok {action target : String} {risk : MissionRisk} {conditions : Dict}
    {expiresAt : Datetime} {maxExecutionCount : Option ℤ} {rule : ScopedApprovalRule}
    (h : createScopedRuleTx action target risk conditions expiresAt maxExecutionCount m db
      = .ok (rule, db')) :
    rule.executionCount = 0 ∧
    ∃ rules, db.rules.insert? rule = some rules ∧ db' = { db with rules } := by
  simp only [createScopedRuleTx] at h
  split at h
  · cases h
  · next rules hins =>
    cases h
    exact ⟨rfl, rules, hins, rfl⟩

end ApprovalService
end AiHq
