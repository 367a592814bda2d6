import AiHq.ToolGateway.Authorization
import AiHq.Python.Serialization

/-!
# What an approval is bound to

An approval is kept under the fingerprint of a capability, a target and parameters. A request is
treated as approved only if it asks for these; who acts, under which conditions and at which
risk is checked for each request on its own.
-/

namespace AiHq

open Concurrent Relational ToolGateway

namespace Binding

variable (gateway : ToolGateway)

/-- The entry tells that the request has been found approved. -/
def saysApproved (event : LedgerEvent) : Bool :=
  event.eventType = .permissionChecked &&
    ((event.eventData.get "approved").map Json.truthy).getD false

/-- The call treats the request as approved, as it writes into the ledger. -/
def treatsAsApproved (request : ToolRequest) (w : World) : Prop :=
  ∃ event ∈ ((gateway.execute request).run w).2.db.ledger.drop w.db.ledger.length,
    saysApproved event

/-- The approval that was requested and granted for the request is the only one, and there is
no scoped rule. -/
structure OnlyGrant (request : ToolRequest) (db : Database) : Prop where
  approval : ∃ id expiresAt decidedAt, db.approvals.rows =
    [{ id, missionId := request.missionId, requesterAgent := request.agentKey,
       action := request.capability, target := request.target, risk := request.risk,
       actionPlan := actionPlan request, actionFingerprint := gateway.fingerprint request,
       expiresAt, state := .approved, decidedAt }]
  rules : db.rules.rows = []

/-- What `canonical_action_fingerprint` hashes. -/
def payload (request : ToolRequest) : Dict :=
  [("action", .str request.capability), ("target", .str request.target),
    ("action_plan", .obj (actionPlan request))]

/-- SHA-256 does not collide on what the two requests ask for. -/
def NoCollision (q₁ q₂ : ToolRequest) : Prop :=
  gateway.fingerprint q₁ = gateway.fingerprint q₂ →
    Json.dumps (.obj (payload q₁)) = Json.dumps (.obj (payload q₂))

/-! ### What a call adds to the ledger -/

/-- Entries have been added, all of them in `P`. -/
def Adds (P : LedgerEvent → Prop) (w w' : World) : Prop :=
  ∃ l, w'.db.ledger = w.db.ledger ++ l ∧ ∀ event ∈ l, P event

variable {P : LedgerEvent → Prop} {w w' w'' : World}

lemma Adds.refl (w : World) : Adds P w w := ⟨[], by simp, by simp⟩

lemma Adds.trans (h : Adds P w w') (h' : Adds P w' w'') : Adds P w w'' := by
  obtain ⟨l, hl, hP⟩ := h
  obtain ⟨l', hl', hP'⟩ := h'
  refine ⟨l ++ l', by rw [hl', hl, List.append_assoc], fun event hev => ?_⟩
  rcases List.mem_append.mp hev with hev | hev
  · exact hP event hev
  · exact hP' event hev

lemma Adds.forall_drop (h : Adds P w w') :
    ∀ event ∈ w'.db.ledger.drop w.db.ledger.length, P event := by
  obtain ⟨l, hl, hP⟩ := h
  rw [hl, List.drop_left]
  exact hP

section Every

variable (hP : ∀ event : LedgerEvent, event.eventType ≠ .permissionChecked → P event)

abbrev Adding (P : LedgerEvent → Prop) {α : Type} (p : Py α) : Prop :=
  Every (fun w _ w' => Adds P w w') p

lemma adding_record {event : LedgerEvent} (hev : P event) :
    Adding P (OperationsLedger.record event) := by
  unfold OperationsLedger.record Py.session
  refine Py.every_transaction (fun w _ db h => ?_) fun w _ h => ?_
  · cases h
    exact ⟨[event], rfl, by simpa using hev⟩
  · cases h

lemma adding_query {α : Type} (g : Moment → Database → Except PyError α)
    (ev : Except PyError α → Event) : Adding P (Py.query g ev) :=
  Py.every_query fun w _ => .refl w

lemma adding_createRequest (self : ApprovalService)
    (missionId requesterAgent action target : String) (risk : MissionRisk) (actionPlan : Dict)
    (expiresAt : Datetime) : Adding P
      (self.createRequest missionId requesterAgent action target risk actionPlan expiresAt) := by
  refine Py.every_transaction (fun w _ db h => ?_) fun w _ _ => .refl w
  obtain ⟨-, approvals, -, rfl⟩ := ApprovalService.createRequestTx_eq_ok h
  exact .refl _

lemma adding_tryConsume (ruleId : String) : Adding P (tryConsume ruleId) := by
  have hconsume : Adding P (ApprovalService.consumeRule ruleId) := by
    refine (adding_query _ _).bind fun now => ?_
    refine Py.every_transaction (fun w rule db h => ?_) fun w _ _ => .refl w
    obtain ⟨_, -, -, -, -, rfl⟩ := ApprovalService.consumeRuleTx_eq_ok h
    exact .refl _
  refine (hconsume.bind fun _ => .ret _).tryCatch fun e => ?_
  cases e <;> first | exact .ret _ | exact .raise _

lemma adding_matchingScopedRule (action target : String) (risk : MissionRisk)
    (conditions : Dict) :
    Adding P (ApprovalService.matchingScopedRule action target risk conditions) := by
  unfold ApprovalService.matchingScopedRule
  split_ifs with hred
  · exact .ret _
  · exact (adding_query _ _).bind fun now => adding_query _ _

include hP

lemma adding_requestApproval (self : SafetyService) (missionId agentKey action target : String)
    (risk : MissionRisk) (actionPlan : Dict) (fingerprint : String) : Adding P
      (self.requestApproval missionId agentKey action target risk actionPlan fingerprint) := by
  refine ((adding_query _ _).bind fun now => adding_query _ _).bind fun pending => ?_
  cases pending with
  | some pending => exact .ret _
  | none =>
    refine (adding_query _ _).bind fun now => ?_
    refine (adding_createRequest ..).bind fun pending => ?_
    exact (adding_record (hP _ LedgerEventType.noConfusion)).bind fun _ => .ret _

lemma adding_callAdapter (request : ToolRequest) (rule : Option String) :
    Adding P (callAdapter request rule) := by
  have hadapter : Adding P (some <$> adapterExecute request rule) := by
    refine Every.bind (Every.atomic (fun w _ _ h => ?_) fun w _ _ => .refl w) fun _ => .ret _
    obtain ⟨_, _, h⟩ := Py.map_eq_ok.mp h
    cases h
    exact .refl _
  refine (hadapter.tryCatch fun e => ?_).bind fun reply => ?_
  · cases e <;> first | exact .ret _ | exact .raise _
  · cases reply with
    | none => exact (adding_record (hP _ LedgerEventType.noConfusion)).bind fun _ => .ret _
    | some result =>
      refine (adding_record (hP _ LedgerEventType.noConfusion)).bind fun _ => ?_
      exact (adding_record (hP _ LedgerEventType.noConfusion)).bind fun _ => .ret _

end Every

/-! ### What the call has found -/

/-- `is_approved`, read off the state. -/
def approvedIn (missionId fingerprint : String) (w : World) : Bool :=
  (w.db.approvals.rows.filter fun r => r.missionId = missionId &&
    r.actionFingerprint = fingerprint && r.state = .approved).any fun r => w.now < r.expiresAt

lemma run_isApproved (missionId fingerprint : String) (w : World) :
    (ApprovalService.isApproved missionId fingerprint).run w =
      (.ok (approvedIn missionId fingerprint w), w) := by
  rw [ApprovalService.isApproved, Py.run_clock_bind, Py.run_query]
  rfl

/-- An entry that says approved tells the truth about the state. -/
def Truthful (request : ToolRequest) (w : World) (event : LedgerEvent) : Prop :=
  saysApproved event → approvedIn request.missionId (gateway.fingerprint request) w

variable {gateway} {request : ToolRequest}

lemma truthful_of_ne {event : LedgerEvent} (h : event.eventType ≠ .permissionChecked) :
    Truthful gateway request w event := by
  intro hsays
  simp [saysApproved, h] at hsays

lemma adds_bind {α β : Type} {p : Py α} {k : α → Py β} (hp : Adds P w (p.run w).2)
    (hk : ∀ a w', p.run w = (.ok a, w') → Adds P w' ((k a).run w').2) :
    Adds P w ((p >>= k).run w).2 := by
  rw [Prog.run_bind]
  split
  · next a w' hrun =>
    rw [hrun] at hp
    exact hp.trans (hk a w' hrun)
  · next e w' hrun =>
    rw [hrun] at hp
    exact hp

lemma adds_of_every {α : Type} {p : Py α} (hp : Adding P p) (w : World) :
    Adds P w (p.run w).2 :=
  hp.run (fun _ _ _ h => h) Adds.refl (fun _ _ _ => Adds.trans) w

/-- The flag is computed once and written down as it is. -/
lemma adds_evaluate (request : ToolRequest) (authorized : Bool) (w : World) :
    Adds (Truthful gateway request w) w
      ((gateway.safety.evaluate request.missionId request.agentKey request.capability
        request.target request.risk (actionPlan request) request.conditions
        request.mutatesExternalState authorized).run w).2 := by
  have hP : ∀ event : LedgerEvent, event.eventType ≠ .permissionChecked →
      Truthful gateway request w event := fun _ => truthful_of_ne
  rw [SafetyService.evaluate]
  refine adds_bind (adds_of_every (adding_record (hP _ LedgerEventType.noConfusion)) w)
    fun _ w₁ hrun => ?_
  have hw₁ : approvedIn request.missionId (gateway.fingerprint request) w₁ =
      approvedIn request.missionId (gateway.fingerprint request) w := by
    cases hrun
    rfl
  refine adds_bind (adds_of_every (adding_query _ _) w₁) fun state w₂ hrun => ?_
  obtain rfl : w₁ = w₂ := by
    cases hrun
    rfl
  refine adds_bind (adds_of_every ((adding_query _ _).bind fun _ => adding_query _ _) w₁)
    fun approved w₃ hrun => ?_
  obtain ⟨happroved, rfl⟩ := Prod.mk.inj ((run_isApproved _ _ _).symm.trans hrun)
  obtain rfl := Except.ok.inj happroved
  refine adds_of_every ?_ w₁
  refine (adding_matchingScopedRule ..).bind fun scopedRule => ?_
  refine (adding_record fun hsays => ?_).bind fun _ => ?_
  · have hfound : approvedIn request.missionId (gateway.fingerprint request) w₁ = true := hsays
    rwa [hw₁] at hfound
  · refine (adding_record (hP _ LedgerEventType.noConfusion)).bind fun _ => ?_
    split_ifs with hdecision
    · exact .ret _
    · exact (adding_requestApproval hP ..).bind fun _ => .ret _

/-- A request that is treated as approved is approved in the state that the call begins in. -/
lemma approvedIn_of_treatsAsApproved (h : treatsAsApproved gateway request w) :
    approvedIn request.missionId (gateway.fingerprint request) w := by
  have hP : ∀ event : LedgerEvent, event.eventType ≠ .permissionChecked →
      Truthful gateway request w event := fun _ => truthful_of_ne
  have hadds : Adds (Truthful gateway request w) w ((gateway.execute request).run w).2 := by
    unfold execute
    split_ifs with hresolves
    · exact .refl w
    · refine adds_bind (adds_of_every (adding_query _ _) w) fun authorized w' hrun => ?_
      obtain rfl : w = w' := by
        cases hrun
        rfl
      refine adds_bind (adds_evaluate request authorized w) fun safety w' _ => ?_
      refine adds_of_every ?_ w'
      split
      · exact .ret _
      · exact .ret _
      · exact (adding_record (hP _ LedgerEventType.noConfusion)).bind fun _ => .ret _
      · split
        · refine (adding_tryConsume _).bind fun consumed => ?_
          cases consumed with
          | true => exact adding_callAdapter hP ..
          | false => exact (adding_record (hP _ LedgerEventType.noConfusion)).bind fun _ => .ret _
        · exact adding_callAdapter hP ..
  obtain ⟨event, hmem, hsays⟩ := h
  exact hadds.forall_drop event hmem hsays

/-! ### What approvals are bound to -/

lemma nodup_actionPlan (request : ToolRequest) : ((actionPlan request).map Prod.fst).Nodup := by
  show ["capability", "target", "params"].Nodup
  decide

lemma nodup_payload (request : ToolRequest) : ((payload request).map Prod.fst).Nodup := by
  show ["action", "target", "action_plan"].Nodup
  decide

lemma valid_payload {float : String → ℚ} (h : Json.Valid float (.obj request.params)) :
    Json.Valid float (.obj (payload request)) := by
  refine .obj (nodup_payload request) ?_
  simp only [payload, List.forall_mem_cons, List.not_mem_nil, false_imp_iff, implies_true, and_true]
  refine ⟨.str _, .str _, .obj (nodup_actionPlan request) ?_⟩
  simp only [actionPlan, List.forall_mem_cons, List.not_mem_nil, false_imp_iff, implies_true,
    and_true]
  exact ⟨.str _, .str _, h⟩

/-- The payload determines capability, target and parameters. -/
lemma agree_of_payload {q₁ q₂ : ToolRequest}
    (h : Json.canon (.obj (payload q₁)) = Json.canon (.obj (payload q₂))) :
    q₁.capability = q₂.capability ∧ q₁.target = q₂.target ∧
      Json.canon (.obj q₁.params) = Json.canon (.obj q₂.params) := by
  have hget := Json.canon_get (nodup_payload q₁) (nodup_payload q₂) h
  have hplan := Json.canon_get (nodup_actionPlan q₁) (nodup_actionPlan q₂)
    (Option.some.inj (hget "action_plan"))
  refine ⟨?_, ?_, ?_⟩
  · exact Json.str.inj (Option.some.inj (hget "action"))
  · exact Json.str.inj (Option.some.inj (hget "target"))
  · exact Option.some.inj (hplan "params")

/-- Approval binding: where the approval of one request is the only authorization, a request
that is treated as approved asks for the same capability, target and parameters. -/
theorem approval_binds (gateway : ToolGateway) (q₁ q₂ : ToolRequest) (w : World)
    (float : String → ℚ) (hvalid₁ : Json.Valid float (.obj q₁.params))
    (hvalid₂ : Json.Valid float (.obj q₂.params)) (hsha : NoCollision gateway q₁ q₂)
    (hgrant : OnlyGrant gateway q₁ w.db) (happroved : treatsAsApproved gateway q₂ w) :
    q₁.capability = q₂.capability ∧ q₁.target = q₂.target ∧
      Json.canon (.obj q₁.params) = Json.canon (.obj q₂.params) := by
  obtain ⟨id, expiresAt, decidedAt, hrows⟩ := hgrant.approval
  have hfound := approvedIn_of_treatsAsApproved happroved
  have hfingerprint : gateway.fingerprint q₁ = gateway.fingerprint q₂ := by
    obtain ⟨r, hr, -⟩ := List.any_eq_true.mp hfound
    rw [hrows, List.mem_filter, List.mem_singleton] at hr
    obtain ⟨rfl, hr⟩ := hr
    simp only [Bool.and_eq_true, decide_eq_true_eq] at hr
    exact hr.1.2
  exact agree_of_payload
    (Json.dumps_inj (valid_payload hvalid₁) (valid_payload hvalid₂) (hsha hfingerprint))

/-! ### A restart that is approved for one agent -/

def restartGateway : ToolGateway where
  registry := ⟨["service.restart"], by decide, by decide⟩
  safety.approvals.sha256 := fun _ =>
    "baf84494b4d4af10106277f7dfa4ac7dd921feca9de9a0ac01d5ef1dd2d17c4b"

def asked : ToolRequest :=
  { missionId := "mission", agentKey := "sysadmin", capability := "service.restart",
    target := "uptime-kuma", risk := .amber, params := [("a", .int 1), ("b", .int 2)],
    mutatesExternalState := true }

def reused : ToolRequest :=
  { missionId := "mission", agentKey := "developer", capability := "service.restart",
    target := "uptime-kuma", risk := .green, params := [("b", .int 2), ("a", .int 1)],
    conditions := [("window", .str "night")] }

def restartWorld : World where
  db :=
    { agents := ⟨[{ key := "sysadmin", permissions := some [.str "service.restart"] },
        { key := "developer", permissions := some [.str "service.restart"] }], by simp⟩
      systemState := some { operatingMode := "normal", simulationMode := false } }

/-- The first request has been made, and what it asked for has been approved. -/
def grantedWorld : World :=
  ((ApprovalService.decide "0" .approved).run ((restartGateway.execute asked).run restartWorld).2).2

lemma onlyGrant_granted : OnlyGrant restartGateway asked grantedWorld.db :=
  ⟨⟨"0", hours 1, some 0, by rfl⟩, by rfl⟩

lemma treatsAsApproved_reused : treatsAsApproved restartGateway reused grantedWorld := by
  unfold treatsAsApproved
  decide

lemma noCollision_restart : NoCollision restartGateway asked reused := by
  intro _
  decide

lemma valid_params {a b : String} (hab : a ≠ b) (m n : ℤ) :
    Json.Valid (fun _ => 0) (.obj [(a, .int m), (b, .int n)]) :=
  .obj (by simpa using hab) (by simp [Json.Valid.int])

theorem approval_binds_restart : asked.capability = reused.capability ∧
    asked.target = reused.target ∧
    Json.canon (.obj asked.params) = Json.canon (.obj reused.params) :=
  approval_binds restartGateway asked reused grantedWorld (fun _ => 0)
    (valid_params (by decide) 1 2) (valid_params (by decide) 2 1) noCollision_restart
    onlyGrant_granted treatsAsApproved_reused

/-- The approval of the first request also covers one by another agent, under other conditions,
at another risk, and that is said not to change anything outside. -/
theorem approval_covers_reused : OnlyGrant restartGateway asked grantedWorld.db ∧
    asked.missionId = reused.missionId ∧ NoCollision restartGateway asked reused ∧
    treatsAsApproved restartGateway reused grantedWorld ∧
    asked.agentKey ≠ reused.agentKey ∧ asked.conditions ≠ reused.conditions ∧
    asked.risk ≠ reused.risk ∧ asked.mutatesExternalState ≠ reused.mutatesExternalState :=
  ⟨onlyGrant_granted, rfl, noCollision_restart, treatsAsApproved_reused, by decide,
    List.cons_ne_nil _ _ |>.symm, by decide, by decide⟩

end Binding
end AiHq
