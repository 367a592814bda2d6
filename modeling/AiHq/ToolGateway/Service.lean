import AiHq.Safety.Service

/-!
# The tool gateway

All executable actions cross `ToolGateway.execute`.
-/

namespace AiHq

open Concurrent Relational

structure ToolGateway where
  registry : ToolRegistry
  safety : SafetyService

namespace ToolGateway

def hasExactPermissionTx (agentKey capability : String) (db : Database) : Bool :=
  match db.agents.get? agentKey with
  | none => false
  | some agent => (agent.permissions.getD []).any fun p => Json.pyEq (.str capability) p

def hasExactPermission (agentKey capability : String) : Py Bool :=
  .query fun _ db => .ok (hasExactPermissionTx agentKey capability db)

def recordResult (request : ToolRequest) (state : ToolOutcomeState) : Py LedgerEvent :=
  OperationsLedger.record
    { missionId := request.missionId, agentKey := some request.agentKey,
      eventType := .resultRecorded,
      summary := "Tool capability " ++ request.capability ++ " finished as " ++ state.value,
      eventData := [("capability", .str request.capability), ("target", .str request.target),
        ("state", .str state.value)] }

/-- `action_plan` of a request. -/
def actionPlan (request : ToolRequest) : Dict :=
  [("capability", .str request.capability), ("target", .str request.target),
    ("params", .obj request.params)]

/-- `adapter.execute(request)`, for a request that the scoped rule `rule` has matched. -/
def adapterExecute (request : ToolRequest) (rule : Option String) : Py Json :=
  .atomic (fun _ => .adapterCall request rule) fun w => (w.adapter request).map (·, w)

/-- Call the adapter and record how it went. -/
def callAdapter (request : ToolRequest) (rule : Option String) : Py ToolOutcome := do
  let reply ← tryCatch (some <$> adapterExecute request rule) fun
    | .toolAdapterError _ => return none
    | e => throw e
  match reply with
  | none =>
    let _ ← recordResult request .failed
    return { state := .failed, capability := request.capability,
             reason := some "adapter_failed" }
  | some result =>
    let _ ← OperationsLedger.record
      { missionId := request.missionId, agentKey := some request.agentKey,
        eventType := .toolExecuted,
        summary := "Executed tool capability " ++ request.capability,
        eventData := [("capability", .str request.capability), ("target", .str request.target)] }
    let _ ← recordResult request .executed
    return { state := .executed, capability := request.capability, result := some result }

/-- Consume the rule; the result is whether that has succeeded. -/
def tryConsume (ruleId : String) : Py Bool :=
  tryCatch (do
    let _ ← ApprovalService.consumeRule ruleId
    return true) fun
    | .keyError _ => return false
    | .valueError _ => return false
    | e => throw e

variable (self : ToolGateway)

def execute (request : ToolRequest) : Py ToolOutcome := do
  if !self.registry.resolves request.capability then
    return { state := .blocked, capability := request.capability,
             reason := some "adapter_unavailable" }
  else
    let authorized ← hasExactPermission request.agentKey request.capability
    let safety ← self.safety.evaluate request.missionId request.agentKey request.capability
      request.target request.risk (actionPlan request) request.conditions
      request.mutatesExternalState authorized
    match safety.decision with
    | .block =>
      return { state := .blocked, capability := request.capability,
               reason := some (if !authorized then "permission_denied" else "safety_blocked") }
    | .requireApproval =>
      return { state := .waitingApproval, capability := request.capability,
               reason := some "approval_required",
               approvalRequestId := safety.approvalRequestId }
    | .simulateOnly =>
      let _ ← recordResult request .simulated
      return { state := .simulated, capability := request.capability,
               result := some (.obj [("simulated", .bool true)]) }
    | .allow =>
      match request.mutatesExternalState, safety.scopedRuleId with
      | true, some ruleId =>
        if ← tryConsume ruleId then callAdapter request (some ruleId)
        else
          let _ ← recordResult request .blocked
          return { state := .blocked, capability := request.capability,
                   reason := some "scoped_rule_consumption_failed" }
      | _, rule => callAdapter request rule

/-! ### What the actions of a gateway call do -/

/-- The tables that no gateway call writes. -/
structure SameMissions (db db' : Database) : Prop where
  missions : db'.missions = db.missions
  steps : db'.steps = db.steps
  agents : db'.agents = db.agents
  deliveries : db'.deliveries = db.deliveries
  systemState : db'.systemState = db.systemState

lemma SameMissions.refl (db : Database) : SameMissions db db := ⟨rfl, rfl, rfl, rfl, rfl⟩

/-- Events of the safety service. -/
def OfSafety : Event → Prop
  | .silent | .clockRead _ => True
  | _ => False

/-- Events of the gateway. -/
def OfGateway : Event → Prop
  | .ruleConsumed _ | .ruleRefused _ | .adapterCall _ _ => True
  | e => OfSafety e

end ToolGateway

def Event.isAdapterCall : Event → Bool
  | .adapterCall _ _ => true
  | _ => false

namespace ToolGateway

/-- The number of adapter calls in a history. -/
def adapterCalls (h : List Event) : ℕ := h.countP Event.isAdapterCall

lemma adapterCalls_of_safety {l : List Event} (hl : ∀ e ∈ l, OfSafety e) : adapterCalls l = 0 := by
  refine List.countP_eq_zero.mpr fun e he => ?_
  cases e with
  | adapterCall _ _ => exact (hl _ he).elim
  | _ => simp [Event.isAdapterCall]

/-- An action of the safety service leaves rules alone. -/
structure SafetyAction (w : World) (e : Event) (w' : World) : Prop where
  event : OfSafety e
  frame : SameMissions w.db w'.db
  rules : w'.db.rules = w.db.rules
  adapter : w'.adapter = w.adapter

/-- An action of the gateway writes rules only as the conditional UPDATE does. -/
structure GatewayAction (w : World) (e : Event) (w' : World) : Prop where
  event : OfGateway e
  frame : SameMissions w.db w'.db
  rules : (∃ id now rule, e = .ruleConsumed id ∧
      ApprovalService.consumeRuleTx id now w.db = .ok (rule, w'.db)) ∨
    (w'.db.rules = w.db.rules ∧ ∀ id, e ≠ .ruleConsumed id)
  adapter : w'.adapter = w.adapter

lemma OfSafety.gateway {e : Event} (h : OfSafety e) : OfGateway e ∧ ∀ id, e ≠ .ruleConsumed id := by
  cases e <;> simp_all [OfSafety, OfGateway]

lemma SafetyAction.gateway {w w' : World} {e : Event} (h : SafetyAction w e w') :
    GatewayAction w e w' :=
  ⟨h.event.gateway.1, h.frame, .inr ⟨h.rules, h.event.gateway.2⟩, h.adapter⟩

lemma safetyAction_silent (w : World) : SafetyAction w .silent w :=
  ⟨trivial, .refl _, rfl, rfl⟩

lemma every_clock : Every SafetyAction Py.clock :=
  Py.every_clock fun _ => ⟨trivial, .refl _, rfl, rfl⟩

lemma every_query {α : Type} (g : Moment → Database → Except PyError α) :
    Every SafetyAction (Py.query g) :=
  Py.every_query fun w _ => safetyAction_silent w

lemma every_record (event : LedgerEvent) : Every SafetyAction (OperationsLedger.record event) := by
  unfold OperationsLedger.record Py.session
  refine Py.every_transaction (fun w _ db h => ?_) fun w _ h => ?_
  · cases h
    exact ⟨trivial, ⟨rfl, rfl, rfl, rfl, rfl⟩, rfl, rfl⟩
  · cases h

lemma every_createRequest (self : ApprovalService)
    (missionId requesterAgent action target : String) (risk : MissionRisk) (actionPlan : Dict)
    (expiresAt : Datetime) :
    Every SafetyAction
      (self.createRequest missionId requesterAgent action target risk actionPlan expiresAt) := by
  refine Py.every_transaction (fun w _ db h => ?_) fun w _ _ => safetyAction_silent w
  obtain ⟨-, approvals, -, rfl⟩ := ApprovalService.createRequestTx_eq_ok h
  exact ⟨trivial, ⟨rfl, rfl, rfl, rfl, rfl⟩, rfl, rfl⟩

lemma every_requestApproval (self : SafetyService) (missionId agentKey action target : String)
    (risk : MissionRisk) (actionPlan : Dict) (fingerprint : String) :
    Every SafetyAction
      (self.requestApproval missionId agentKey action target risk actionPlan fingerprint) := by
  refine (every_clock.bind fun now => every_query _).bind fun pending => ?_
  cases pending with
  | some pending => exact .ret _
  | none =>
    refine every_clock.bind fun now => ?_
    refine (every_createRequest ..).bind fun pending => ?_
    exact (every_record _).bind fun _ => .ret _

lemma every_matchingScopedRule (action target : String) (risk : MissionRisk)
    (conditions : Dict) :
    Every SafetyAction (ApprovalService.matchingScopedRule action target risk conditions) := by
  unfold ApprovalService.matchingScopedRule
  split_ifs with hred
  · exact .ret _
  · exact every_clock.bind fun now => every_query _

lemma every_evaluate (self : SafetyService) (missionId agentKey action target : String)
    (risk : MissionRisk) (actionPlan conditions : Dict)
    (mutatesExternalState authorizationAvailable : Bool) :
    Every SafetyAction (self.evaluate missionId agentKey action target risk actionPlan conditions
      mutatesExternalState authorizationAvailable) := by
  refine (every_record _).bind fun _ => ?_
  refine (every_query _).bind fun state => ?_
  refine (every_clock.bind fun now => every_query _).bind fun approved => ?_
  refine (every_matchingScopedRule ..).bind fun scopedRule => ?_
  refine (every_record _).bind fun _ => ?_
  refine (every_record _).bind fun _ => ?_
  split_ifs with hd
  · exact .ret _
  · exact (every_requestApproval ..).bind fun _ => .ret _

lemma every_consumeRule (ruleId : String) :
    Every GatewayAction (ApprovalService.consumeRule ruleId) := by
  refine (every_clock.mono fun _ _ _ => SafetyAction.gateway).bind fun now => ?_
  refine Py.every_transaction (fun w rule db h => ?_) fun w _ _ => ?_
  · obtain ⟨_, -, -, -, -, rfl⟩ := ApprovalService.consumeRuleTx_eq_ok h
    exact ⟨trivial, ⟨rfl, rfl, rfl, rfl, rfl⟩, .inl ⟨ruleId, now, rule, rfl, h⟩, rfl⟩
  · exact ⟨trivial, .refl _, .inr ⟨rfl, fun _ => Event.noConfusion⟩, rfl⟩

lemma every_tryConsume (ruleId : String) : Every GatewayAction (tryConsume ruleId) := by
  refine ((every_consumeRule ruleId).bind fun _ => .ret _).tryCatch fun e => ?_
  cases e <;> first | exact .ret _ | exact .raise _

lemma every_callAdapter (request : ToolRequest) (rule : Option String) :
    Every GatewayAction (callAdapter request rule) := by
  have hrecord : ∀ event, Every GatewayAction (OperationsLedger.record event) :=
    fun event => (every_record event).mono fun _ _ _ => SafetyAction.gateway
  have hadapter : Every GatewayAction (some <$> adapterExecute request rule) := by
    refine Every.bind (Every.atomic (fun w _ _ h => ?_) fun w _ _ => ?_) fun _ => .ret _
    · obtain ⟨_, _, h⟩ := Py.map_eq_ok.mp h
      cases h
      exact ⟨trivial, .refl _, .inr ⟨rfl, fun _ => Event.noConfusion⟩, rfl⟩
    · exact ⟨trivial, .refl _, .inr ⟨rfl, fun _ => Event.noConfusion⟩, rfl⟩
  refine (hadapter.tryCatch fun e => ?_).bind fun reply => ?_
  · cases e <;> first | exact .ret _ | exact .raise _
  · cases reply with
    | none => exact (hrecord _).bind fun _ => .ret _
    | some result => exact (hrecord _).bind fun _ => (hrecord _).bind fun _ => .ret _

variable (self : ToolGateway)

/-- Every action of a gateway call is one of the gateway's. -/
theorem every_execute (request : ToolRequest) : Every GatewayAction (self.execute request) := by
  have hrecord : ∀ event, Every GatewayAction (OperationsLedger.record event) :=
    fun event => (every_record event).mono fun _ _ _ => SafetyAction.gateway
  unfold execute
  split_ifs with hresolves
  · exact .ret _
  · refine ((every_query _).mono fun _ _ _ => SafetyAction.gateway).bind fun authorized => ?_
    refine ((every_evaluate ..).mono fun _ _ _ => SafetyAction.gateway).bind fun safety => ?_
    split
    · exact .ret _
    · exact .ret _
    · exact (hrecord _).bind fun _ => .ret _
    · split
      · refine (every_tryConsume _).bind fun consumed => ?_
        cases consumed with
        | true => exact every_callAdapter ..
        | false => exact (hrecord _).bind fun _ => .ret _
      · exact every_callAdapter ..

/-! ### When a gateway call returns -/

/-- What is drawn from outside raises nothing: the identifier is new, and an adapter raises no
error but its own. -/
structure Benign (w : World) (e : Event) (w' : World) : Prop where
  fresh : w.db.approvals.get? (w.moment.ids 0) = none
  adapter : ∀ request rule, e = .adapterCall request rule →
    ∀ error, w.adapter request = .error error → ∃ message, error = .toolAdapterError message

section Yields

open Py

variable {E : PyError → Prop}

lemma yields_record {K : World → Event → World → Prop} (event : LedgerEvent) :
    Yields K (OperationsLedger.record event) (RaisesOnly E) := by
  rw [OperationsLedger.record, session]
  apply yields_transaction
  · intro w a db _ _
    exact raisesOnly_ok a
  · intro w e he
    cases he

lemma yields_createRequest (self : ApprovalService)
    (missionId requesterAgent action target : String) (risk : MissionRisk) (actionPlan : Dict)
    (expiresAt : Datetime) :
    Yields Benign
      (self.createRequest missionId requesterAgent action target risk actionPlan expiresAt)
      (RaisesOnly E) := by
  rw [ApprovalService.createRequest]
  apply yields_transaction
  · intro w a db _ _
    exact raisesOnly_ok a
  · intro w e he hbenign
    simp only [ApprovalService.createRequestTx] at he
    split at he
    · next hnone =>
      obtain ⟨approvals, hsome⟩ := Table.exists_insert? (r := {
        id := w.moment.ids 0, missionId, requesterAgent, action, target, risk, actionPlan,
        actionFingerprint := self.canonicalActionFingerprint action target actionPlan,
        expiresAt : ApprovalRequest }) hbenign.fresh
      exact absurd (hnone.symm.trans hsome) (by simp)
    · cases he

lemma yields_requestApproval (self : SafetyService) (missionId agentKey action target : String)
    (risk : MissionRisk) (actionPlan : Dict) (fingerprint : String) :
    Yields Benign
      (self.requestApproval missionId agentKey action target risk actionPlan fingerprint)
      (RaisesOnly E) := by
  apply yields_bind (yields_bind yields_clock fun now => yields_query)
  intro pending
  cases pending with
  | some pending => exact yields_ret pending
  | none =>
    apply yields_bind yields_clock
    intro now
    apply yields_bind (yields_createRequest ..)
    intro pending
    exact yields_bind (yields_record _) fun _ => yields_ret pending

lemma yields_matchingScopedRule {K : World → Event → World → Prop} (action target : String)
    (risk : MissionRisk) (conditions : Dict) :
    Yields K (ApprovalService.matchingScopedRule action target risk conditions)
      (RaisesOnly E) := by
  rw [ApprovalService.matchingScopedRule]
  split_ifs
  · exact yields_ret none
  · exact yields_bind yields_clock fun now => yields_query

lemma yields_evaluate (self : SafetyService) (missionId agentKey action target : String)
    (risk : MissionRisk) (actionPlan conditions : Dict)
    (mutatesExternalState authorizationAvailable : Bool) :
    Yields Benign (self.evaluate missionId agentKey action target risk actionPlan conditions
      mutatesExternalState authorizationAvailable) (RaisesOnly E) := by
  apply yields_bind (yields_record _)
  intro _
  apply yields_bind yields_query
  intro state
  apply yields_bind (yields_bind yields_clock fun now => yields_query)
  intro approved
  apply yields_bind (yields_matchingScopedRule ..)
  intro scopedRule
  apply yields_bind (yields_record _)
  intro _
  apply yields_bind (yields_record _)
  intro _
  split_ifs
  · exact yields_ret _
  · exact yields_bind (yields_requestApproval ..) fun _ => yields_ret _

/-- The errors that the gateway handles when it consumes a rule. -/
def OfRule (e : PyError) : Prop :=
  (∃ message, e = .keyError message) ∨ ∃ message, e = .valueError message

lemma yields_consumeRule {K : World → Event → World → Prop} (ruleId : String) :
    Yields K (ApprovalService.consumeRule ruleId) (RaisesOnly OfRule) := by
  apply yields_bind yields_clock
  intro now
  rw [session]
  apply yields_transaction
  · intro w a db _ _
    exact raisesOnly_ok a
  · intro w e he _
    apply raisesOnly_error
    unfold ApprovalService.consumeRuleTx at he
    split at he
    · cases he
      exact .inl ⟨_, rfl⟩
    · split_ifs at he <;> cases he <;> exact .inr ⟨_, rfl⟩

lemma yields_tryConsume {K : World → Event → World → Prop} (ruleId : String) :
    Yields K (tryConsume ruleId) (RaisesOnly E) := by
  apply (yields_bind (yields_consumeRule ruleId) fun _ => yields_ret true).tryCatch
  · intro b _
    exact raisesOnly_ok b
  · intro e he
    rcases he e rfl with ⟨message, rfl⟩ | ⟨message, rfl⟩
    all_goals exact yields_ret false

lemma yields_adapterExecute (request : ToolRequest) (rule : Option String) :
    Yields Benign (adapterExecute request rule)
      (RaisesOnly fun e => ∃ message, e = .toolAdapterError message) := by
  rw [adapterExecute]
  apply Yields.atomic
  · intro w a t _ _
    exact raisesOnly_ok a
  · intro w e he hbenign
    exact raisesOnly_error (hbenign.adapter request rule rfl e (map_eq_error.mp he))

lemma yields_callAdapter (request : ToolRequest) (rule : Option String) :
    Yields Benign (callAdapter request rule) (RaisesOnly E) := by
  have hreply := yields_bind (yields_adapterExecute request rule) fun a => yields_ret (some a)
  refine yields_bind (hreply.tryCatch (fun a _ => raisesOnly_ok a) fun e he => ?_) fun reply => ?_
  · obtain ⟨message, rfl⟩ := he e rfl
    exact yields_ret none
  · cases reply with
    | none => exact yields_bind (yields_record _) fun _ => yields_ret _
    | some result =>
      apply yields_bind (yields_record _)
      intro _
      exact yields_bind (yields_record _) fun _ => yields_ret _

/-- A gateway call returns an outcome, unless an adapter raises an error that is not its own. -/
theorem yields_execute (request : ToolRequest) : Yields Benign (self.execute request) (RaisesOnly E) := by
  unfold execute
  split_ifs with hresolves
  · exact yields_ret _
  · apply yields_bind yields_query
    intro authorized
    apply yields_bind (yields_evaluate ..)
    intro safety
    split
    · exact yields_ret _
    · exact yields_ret _
    · exact yields_bind (yields_record _) fun _ => yields_ret _
    · split
      · apply yields_bind (yields_tryConsume _)
        intro consumed
        cases consumed with
        | true => exact yields_callAdapter ..
        | false => exact yields_bind (yields_record _) fun _ => yields_ret _
      · exact yields_callAdapter ..

end Yields

end ToolGateway
end AiHq
