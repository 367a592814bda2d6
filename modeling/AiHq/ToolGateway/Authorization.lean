import AiHq.ToolGateway.Service

/-!
# Authorization soundness of the gateway

A call reaches its adapter only with every authorization that its risk and its effects ask
for, as the tables have them while the call is under way.
-/

namespace AiHq

open Concurrent Relational

/-! ### The policy -/

lemma evaluateAction_eq_allow {intent : ActionIntent} {mode : OperatingMode} {sim : Bool}
    (h : evaluateAction intent mode sim = .allow) :
    intent.authorizationAvailable = true ∧ mode ≠ .freeze ∧ intent.risk ≠ .red ∧
      (intent.mutatesExternalState = true → mode = .normal ∧ sim = false) ∧
      (intent.risk = .blue → intent.scopedRuleAllows = true) ∧
      (intent.risk = .amber → intent.approved = true) ∧
      (intent.risk = .green → intent.mutatesExternalState = true → intent.approved = true) := by
  unfold evaluateAction at h
  split_ifs at h with havail hred hsafe hblue hamber hgreen hsim
  cases mode <;> cases hr : intent.risk <;> simp_all

lemma pyEq_str {s : String} {x : Json} : Json.pyEq (.str s) x = true ↔ x = .str s := by
  cases x with
  | str t => simpa [Json.pyEq] using eq_comm
  | _ => simp [Json.pyEq, Json.number?]

/-! ### What a call must have -/

/-- The tables that authorizations are read from. -/
structure SameGrants (db db' : Database) : Prop where
  agents : db'.agents = db.agents
  approvals : db'.approvals = db.approvals
  rules : db'.rules = db.rules
  systemState : db'.systemState = db.systemState

lemma SameGrants.refl (db : Database) : SameGrants db db := ⟨rfl, rfl, rfl, rfl⟩

lemma SameGrants.trans {db₁ db₂ db₃ : Database} (h : SameGrants db₁ db₂)
    (h' : SameGrants db₂ db₃) : SameGrants db₁ db₃ :=
  ⟨h'.agents.trans h.agents, h'.approvals.trans h.approvals, h'.rules.trans h.rules,
    h'.systemState.trans h.systemState⟩

/-- The instant had not come when the call read the clock. -/
def Unexpired (h : List Event) (expiresAt : Datetime) : Prop :=
  ∃ now, .clockRead now ∈ h ∧ now < expiresAt

structure HasApproval (db : Database) (h : List Event) (missionId fingerprint : String)
    (approval : ApprovalRequest) : Prop where
  mem : approval ∈ db.approvals.rows
  mission : approval.missionId = missionId
  fingerprint : approval.actionFingerprint = fingerprint
  approved : approval.state = .approved
  unexpired : Unexpired h approval.expiresAt

structure RuleMatches (db : Database) (h : List Event) (request : ToolRequest)
    (rule : ScopedApprovalRule) : Prop where
  mem : rule ∈ db.rules.rows
  action : rule.action = request.capability
  target : rule.target = request.target
  risk : rule.risk = request.risk
  conditions : Json.pyEq (.obj rule.conditions) (.obj request.conditions) = true
  unexpired : Unexpired h rule.expiresAt
  unexhausted : rule.exhausted = false

section Mono

variable {db : Database} {h h' : List Event} (hh : h <+: h')
include hh

lemma Unexpired.mono {t : Datetime} (hu : Unexpired h t) : Unexpired h' t := by
  obtain ⟨now, hnow, ht⟩ := hu
  exact ⟨now, hh.subset hnow, ht⟩

lemma HasApproval.mono {missionId fingerprint : String} {a : ApprovalRequest}
    (ha : HasApproval db h missionId fingerprint a) :
    HasApproval db h' missionId fingerprint a :=
  { ha with unexpired := ha.unexpired.mono hh }

lemma RuleMatches.mono {request : ToolRequest} {r : ScopedApprovalRule}
    (hr : RuleMatches db h request r) : RuleMatches db h' request r :=
  { hr with unexpired := hr.unexpired.mono hh }

end Mono

/-- The outcomes that an adapter has been called for. -/
def ToolOutcomeState.called : ToolOutcomeState → Bool
  | executed | failed => true
  | _ => false

namespace ToolGateway

variable (gateway : ToolGateway)

def fingerprint (request : ToolRequest) : String :=
  gateway.safety.approvals.canonicalActionFingerprint request.capability request.target
    (actionPlan request)

/-- Everything that an adapter call for the request must have, with `rule` the identifier of
the scoped rule that has matched, if any. -/
structure Authorized (db : Database) (h : List Event) (request : ToolRequest)
    (rule : Option String) : Prop where
  registered : request.capability ∈ gateway.registry.capabilities
  permission : ∃ agent, db.agents.get? request.agentKey = some agent ∧
    .str request.capability ∈ agent.permissions.getD []
  mode : ∃ state mode, db.systemState = some state ∧
    OperatingMode.ofValue? state.operatingMode = some mode ∧ mode ≠ .freeze ∧
    (request.mutatesExternalState = true → mode = .normal ∧ state.simulationMode = false)
  risk : request.risk ≠ .red
  matched : ∀ id, rule = some id → ∃ r, r.id = id ∧ RuleMatches db h request r
  blue : request.risk = .blue →
    (∃ approval, HasApproval db h request.missionId (gateway.fingerprint request) approval) ∨
      ∃ r, rule = some r.id ∧ RuleMatches db h request r
  amber : request.risk = .amber ∨ request.risk = .green ∧ request.mutatesExternalState = true →
    ∃ approval, HasApproval db h request.missionId (gateway.fingerprint request) approval

/-- The rules when the adapter is called: those of `db`, where a mutating request that has
matched a rule has had it counted once. -/
def RuleCharged (db db' : Database) (request : ToolRequest) (rule : Option String) : Prop :=
  match rule with
  | some id =>
    if request.mutatesExternalState then
      ∃ r, db.rules.get? id = some r ∧
        db'.rules = db.rules.set { r with executionCount := r.executionCount + 1 }
    else db'.rules = db.rules
  | none => db'.rules = db.rules

/-! ### The contract of a call -/

/-- Others leave the grants alone; the call reaches its adapter only with authorization. -/
def callContract (db : Database) (request : ToolRequest) : Contract Event World where
  rely w w' := SameGrants w.db w'.db
  guar h w e _ := ∀ request' rule, e = .adapterCall request' rule →
    request' = request ∧ gateway.Authorized db h request rule ∧ RuleCharged db w.db request rule
  rely_refl w := .refl w.db
  rely_trans _ _ _ h h' := h.trans h'

variable {gateway : ToolGateway} {db : Database} {request : ToolRequest} {α β : Type} {h : List Event}
  {w : World} {k : α → Py β} {Q : List Event → Except PyError β → World → Prop}

lemma callContract_guar_of_safety {e : Event} (w' : World) (he : OfSafety e) :
    (gateway.callContract db request).guar h w e w' := by
  rintro request' rule rfl
  cases he

/-- The actions up to the decision leave the grants alone and call no adapter. -/
structure Harmless (w : World) (e : Event) (w' : World) : Prop where
  event : OfSafety e
  grants : SameGrants w.db w'.db

lemma harmless_record (event : LedgerEvent) : Every Harmless (OperationsLedger.record event) := by
  unfold OperationsLedger.record Py.session
  refine Py.every_transaction (fun w _ db h => ?_) fun w _ h => ?_
  · cases h
    exact ⟨trivial, rfl, rfl, rfl, rfl⟩
  · cases h

/-- What a part of the call that calls no adapter leaves: the grants as they were, and a longer
history with no more adapter calls. -/
structure Kept (db : Database) (h h' : List Event) (w : World) : Prop where
  grants : SameGrants db w.db
  history : h <+: h'
  calls : adapterCalls h' = adapterCalls h

lemma Kept.trans {h' h'' : List Event} {w' : World} (hk : Kept db h h' w)
    (hk' : Kept db h' h'' w') : Kept db h h'' w' :=
  ⟨hk'.grants, hk.history.trans hk'.history, hk'.calls.trans hk.calls⟩

/-- A harmless part keeps what there was. -/
lemma safe_harmless {p : Py α} (hp : Every Harmless p) (hw : SameGrants db w.db) :
    Safe (gateway.callContract db request) p h w fun h' _ w' => Kept db h h' w' := by
  refine (hp.safe (C := gateway.callContract db request) (F := fun w w' => SameGrants w.db w'.db) 
    (N := OfSafety)
    (fun h w e w' _ _ hG =>
      ⟨callContract_guar_of_safety w' hG.event, trivial, hG.grants, hG.event⟩)
    (fun _ _ hR => hR) (fun _ _ _ h h' => h.trans h') h w).mono ?_
  rintro h' _ w' ⟨hF, l, rfl, hl⟩
  refine ⟨hw.trans hF, List.prefix_append h l, ?_⟩
  rw [adapterCalls, List.countP_append]
  exact Nat.add_eq_left.mpr (adapterCalls_of_safety hl)

lemma safe_safety {p : Py α} (hp : Every SafetyAction p) :
    Safe (gateway.callContract db request) p h w fun h' _ _ =>
      adapterCalls h' = adapterCalls h := by
  refine (hp.safe (C := gateway.callContract db request) (F := fun _ _ => True) (N := OfSafety)
    (fun h w e w' _ _ hG =>
      ⟨callContract_guar_of_safety w' hG.event, trivial, trivial, hG.event⟩)
    (fun _ _ _ => trivial) (fun _ _ _ _ _ => trivial) h w).mono ?_
  rintro h' _ w' ⟨-, l, rfl, hl⟩
  rw [adapterCalls, List.countP_append]
  exact Nat.add_eq_left.mpr (adapterCalls_of_safety hl)

/-- A read finds the grants of `db`. -/
lemma safe_read {g : Moment → Database → α} (hw : SameGrants db w.db) :
    Safe (gateway.callContract db request) (Py.query fun m d => .ok (g m d)) h w fun h' r w' =>
      Kept db h h' w' ∧ ∃ m d, SameGrants db d ∧ r = .ok (g m d) := by
  refine Py.safe_query (fun v a hR _ ha _ => ?_) fun v e _ _ he => ?_
  · cases ha
    refine ⟨callContract_guar_of_safety v trivial, fun t hR' _ => ?_⟩
    have hv : SameGrants db v.db := hw.trans hR
    refine ⟨⟨hv.trans hR', List.prefix_append _ _, ?_⟩, v.moment, v.db, hv, rfl⟩
    simp [adapterCalls, Event.isAdapterCall]
  · cases he

lemma kept_clock {v : World} (hv : SameGrants db v.db) :
    Kept db h (h ++ [.clockRead v.now]) v :=
  ⟨hv, List.prefix_append _ _, by simp [adapterCalls, Event.isAdapterCall]⟩

lemma safe_isApproved {missionId fp : String} (hw : SameGrants db w.db) :
    Safe (gateway.callContract db request) (ApprovalService.isApproved missionId fp) h w
      fun h' r w' => Kept db h h' w' ∧
        (r = .ok true → ∃ a, HasApproval db h' missionId fp a) := by
  unfold ApprovalService.isApproved
  refine Py.safe_clock_bind fun v hR _ _ => ⟨callContract_guar_of_safety v trivial, ?_⟩
  have hv : SameGrants db v.db := hw.trans hR
  refine (safe_read hv).mono ?_
  rintro h' r w' ⟨hk, m, d, hd, rfl⟩
  refine ⟨(kept_clock hv).trans hk, fun htrue => ?_⟩
  obtain ⟨a, ha, hexp⟩ := List.any_eq_true.mp (Except.ok.inj htrue)
  rw [hd.approvals, List.mem_filter] at ha
  simp only [Bool.and_eq_true, decide_eq_true_eq] at ha hexp
  exact ⟨a, ha.1, ha.2.1.1, ha.2.1.2, ha.2.2, v.now, hk.history.subset (by simp), hexp⟩

lemma safe_matchingScopedRule (hw : SameGrants db w.db) :
    Safe (gateway.callContract db request) (ApprovalService.matchingScopedRule request.capability
      request.target request.risk request.conditions) h w
      fun h' r w' => Kept db h h' w' ∧
        ∀ rule, r = .ok (some rule) → RuleMatches db h' request rule := by
  unfold ApprovalService.matchingScopedRule
  split_ifs with hred
  · exact Safe.ret fun w' hR _ => ⟨⟨hw.trans hR, List.prefix_refl h, rfl⟩, by simp⟩
  · refine Py.safe_clock_bind fun v hR _ _ => ⟨callContract_guar_of_safety v trivial, ?_⟩
    have hv : SameGrants db v.db := hw.trans hR
    refine (safe_read hv).mono ?_
    rintro h' r w' ⟨hk, m, d, hd, rfl⟩
    refine ⟨(kept_clock hv).trans hk, fun rule hrule => ?_⟩
    have hfind := Except.ok.inj hrule
    have hmem := mem_orderBy.mp (List.mem_of_find?_eq_some hfind)
    have happlies := List.find?_some hfind
    rw [hd.rules, List.mem_filter] at hmem
    simp only [ApprovalService.applies, Bool.and_eq_true, decide_eq_true_eq,
      Bool.not_eq_true'] at hmem happlies
    exact ⟨hmem.1, hmem.2.1.1, hmem.2.1.2, hmem.2.2, happlies.1.1,
      ⟨v.now, hk.history.subset (by simp), happlies.1.2⟩, happlies.2⟩

/-- What the safety service has found when it has come to a decision. -/
structure Evaluated (db : Database) (h : List Event) (request : ToolRequest) (authorized : Bool)
    (fp : String) (s : SafetyResult) : Prop where
  decision : ∃ mode sim available approved,
    SafetyService.systemStateTx db = (mode, sim, available) ∧
    (approved = true → ∃ a, HasApproval db h request.missionId fp a) ∧
    s.decision = evaluateAction
      { action := request.capability, target := request.target, risk := request.risk,
        mutatesExternalState := request.mutatesExternalState,
        scopedRuleAllows := s.scopedRuleId.isSome || approved, approved,
        authorizationAvailable := authorized && available } mode sim
  matched : ∀ id, s.scopedRuleId = some id → ∃ r, r.id = id ∧ RuleMatches db h request r

lemma safe_evaluate (authorized : Bool) (hw : SameGrants db w.db) :
    Safe (gateway.callContract db request) (gateway.safety.evaluate request.missionId request.agentKey
      request.capability request.target request.risk (actionPlan request) request.conditions
      request.mutatesExternalState authorized) h w
      fun h' r w' => ∀ s, r = .ok s →
        (s.decision ≠ .requireApproval → Kept db h h' w' ∧
          Evaluated db h' request authorized (gateway.fingerprint request) s) ∧
        adapterCalls h' = adapterCalls h := by
  unfold SafetyService.evaluate
  refine (safe_harmless (harmless_record _) hw).bind (fun h₁ _ w₁ hk₁ => ?_) (by simp)
  refine (safe_read hk₁.grants).bind (fun h₂ state w₂ hP => ?_) (by simp)
  obtain ⟨hk₂, m, d, hd, hstate⟩ := hP
  refine (safe_isApproved hk₂.grants).bind (fun h₃ approved w₃ hP => ?_) (by simp)
  obtain ⟨hk₃, happroved⟩ := hP
  refine (safe_matchingScopedRule hk₃.grants).bind (fun h₄ rule w₄ hP => ?_) (by simp)
  obtain ⟨hk₄, hrule⟩ := hP
  refine (safe_harmless (harmless_record _) hk₄.grants).bind (fun h₅ _ w₅ hk₅ => ?_) (by simp)
  refine (safe_harmless (harmless_record _) hk₅.grants).bind (fun h₆ _ w₆ hk₆ => ?_) (by simp)
  have hk : Kept db h h₆ w₆ := ((((hk₁.trans hk₂).trans hk₃).trans hk₄).trans hk₅).trans hk₆
  have h₃₆ : h₃ <+: h₆ := (hk₄.history.trans hk₅.history).trans hk₆.history
  have h₄₆ : h₄ <+: h₆ := hk₅.history.trans hk₆.history
  split_ifs with hdec
  · refine Safe.ret fun w' hR _ s hs => ?_
    cases hs
    refine ⟨fun _ => ⟨⟨hk.grants.trans hR, hk.history, hk.calls⟩, ?_, ?_⟩, hk.calls⟩
    · obtain ⟨mode, sim, available⟩ := state
      refine ⟨mode, sim, available, approved, ?_, fun htrue => ?_, by simp⟩
      · rw [Except.ok.inj hstate]
        simp only [SafetyService.systemStateTx, hd.systemState]
      · obtain ⟨a, ha⟩ := happroved (congrArg Except.ok htrue)
        exact ⟨a, ha.mono h₃₆⟩
    · intro id hid
      obtain ⟨r, rfl, rfl⟩ := Option.map_eq_some_iff.mp hid
      exact ⟨r, rfl, (hrule r rfl).mono h₄₆⟩
  · refine (safe_safety (every_requestApproval ..)).bind (fun h₇ pending w₇ hcalls => ?_) (by simp)
    refine Safe.ret fun w' _ _ s hs => ?_
    cases hs
    exact ⟨fun hne => absurd hdec (by simpa using hne), hcalls.trans hk.calls⟩

/-- An allowed action has every authorization that an adapter call for it must have. -/
lemma Evaluated.authorized {s : SafetyResult}
    (hs : Evaluated db h request (hasExactPermissionTx request.agentKey request.capability db)
      (gateway.fingerprint request) s)
    (hregistered : gateway.registry.resolves request.capability = true)
    (hallow : s.decision = .allow) : gateway.Authorized db h request s.scopedRuleId := by
  obtain ⟨mode, sim, available, approved, hstate, happroved, hdec⟩ := hs.decision
  obtain ⟨havail, hfreeze, hred, hmut, hblue, hamber, hgreen⟩ :=
    evaluateAction_eq_allow (hdec.symm.trans hallow)
  obtain ⟨hperm, rfl⟩ : hasExactPermissionTx request.agentKey request.capability db = true ∧
      available = true := by simpa using havail
  refine ⟨of_decide_eq_true hregistered, ?_, ?_, hred, hs.matched, fun hb => ?_, fun ha => ?_⟩
  · unfold hasExactPermissionTx at hperm
    split at hperm
    · cases hperm
    · next agent hagent =>
      obtain ⟨p, hp, heq⟩ := List.any_eq_true.mp hperm
      exact ⟨agent, hagent, pyEq_str.mp heq ▸ hp⟩
  · unfold SafetyService.systemStateTx at hstate
    split at hstate
    · cases hstate
    · next state hsome =>
      split at hstate
      · cases hstate
      · next mode' hmode =>
        cases hstate
        exact ⟨state, _, hsome, hmode, hfreeze, hmut⟩
  · rcases Bool.or_eq_true _ _ ▸ hblue hb with hrule | happ
    · obtain ⟨id, hid⟩ := Option.isSome_iff_exists.mp hrule
      obtain ⟨r, rfl, hr⟩ := hs.matched id hid
      exact .inr ⟨r, hid, hr⟩
    · exact .inl (happroved happ)
  · rcases ha with ha | ⟨hg, hm⟩
    · exact happroved (hamber ha)
    · exact happroved (hgreen hg hm)

lemma Authorized.mono {h' : List Event} {rule : Option String}
    (ha : gateway.Authorized db h request rule) (hh : h <+: h') :
    gateway.Authorized db h' request rule :=
  { ha with
    matched := fun id hid => (ha.matched id hid).imp fun _ hr => ⟨hr.1, hr.2.mono hh⟩
    blue := fun hb => (ha.blue hb).imp (Exists.imp fun _ h => h.mono hh)
      (Exists.imp fun _ hr => ⟨hr.1, hr.2.mono hh⟩)
    amber := fun hr => (ha.amber hr).imp fun _ h => h.mono hh }

lemma RuleCharged.of_rules {d d' : Database} {rule : Option String}
    (hc : RuleCharged db d request rule) (hrules : d'.rules = d.rules) :
    RuleCharged db d' request rule := by
  unfold RuleCharged at hc ⊢
  rw [hrules]
  exact hc

/-- An authorized call makes one adapter call. -/
lemma safe_callAdapter {rule : Option String} (ha : gateway.Authorized db h request rule)
    (hc : RuleCharged db w.db request rule) :
    Safe (gateway.callContract db request) (callAdapter request rule) h w fun h' r _ =>
      ∀ o, r = .ok o → o.state.called = true ∧ adapterCalls h' = adapterCalls h + 1 := by
  have hcall : Safe (gateway.callContract db request) (adapterExecute request rule) h w
      fun h' _ _ => h' = h ++ [.adapterCall request rule] := by
    have hguar : ∀ v w', SameGrants w.db v.db →
        (gateway.callContract db request).guar h v (.adapterCall request rule) w' := by
      rintro v w' hR _ _ hev
      cases hev
      exact ⟨rfl, ha, hc.of_rules hR.rules⟩
    refine Safe.atomic (fun v _ _ hR _ _ _ => ⟨hguar v _ hR, trivial, fun _ _ _ => rfl⟩)
      fun v _ hR _ _ _ => ⟨hguar v _ hR, fun _ _ _ => rfl⟩
  have hone : adapterCalls (h ++ [.adapterCall request rule]) = adapterCalls h + 1 := by
    simp [adapterCalls, Event.isAdapterCall]
  have hreply : Safe (gateway.callContract db request) (some <$> adapterExecute request rule) h w
      fun h' _ _ => adapterCalls h' = adapterCalls h + 1 :=
    hcall.bind (fun h' _ w' hh' => Safe.ret fun _ _ _ => hh' ▸ hone)
      fun h' _ w' hh' => hh' ▸ hone
  refine (hreply.tryCatch (Q := fun h' _ _ => adapterCalls h' = adapterCalls h + 1)
    (fun _ _ _ hn => hn) fun h' e w' hn => ?_).bind (fun h₁ reply w₁ hn => ?_) (by simp)
  · cases e <;> first | exact Safe.ret fun _ _ _ => hn | exact Safe.raise fun _ _ _ => hn
  · cases reply with
    | none =>
      refine (safe_safety (every_record _)).bind (fun h₂ _ w₂ hn₂ => ?_) (by simp)
      exact Safe.ret fun _ _ _ o ho => by cases ho; exact ⟨rfl, hn₂.trans hn⟩
    | some result =>
      refine (safe_safety (every_record _)).bind (fun h₂ _ w₂ hn₂ => ?_) (by simp)
      refine (safe_safety (every_record _)).bind (fun h₃ _ w₃ hn₃ => ?_) (by simp)
      exact Safe.ret fun _ _ _ o ho => by cases ho; exact ⟨rfl, hn₃.trans (hn₂.trans hn)⟩

/-- A rule is consumed by one conditional UPDATE. -/
lemma safe_tryConsume {id : String} (hw : SameGrants db w.db)
    (hm : request.mutatesExternalState = true) :
    Safe (gateway.callContract db request) (tryConsume id) h w fun h' r w' =>
      h <+: h' ∧ adapterCalls h' = adapterCalls h ∧
        (r = .ok true → RuleCharged db w'.db request (some id)) := by
  have hconsume : Safe (gateway.callContract db request) (ApprovalService.consumeRule id) h w
      fun h' r w' => h <+: h' ∧ adapterCalls h' = adapterCalls h ∧
        ∀ rule, r = .ok rule → RuleCharged db w'.db request (some id) := by
    refine Py.safe_clock_bind fun v hR _ _ => ⟨callContract_guar_of_safety v trivial, ?_⟩
    refine Py.safe_transaction (fun u rule d hR' _ hf _ => ⟨?_, trivial, fun t ht _ => ?_⟩)
      fun u e _ _ _ _ => ⟨?_, fun t _ _ => ?_⟩
    · rintro _ _ ⟨⟩
    · refine ⟨by simp, by simp [adapterCalls, Event.isAdapterCall], fun _ _ => ?_⟩
      obtain ⟨old, hold, -, -, rfl, rfl⟩ := ApprovalService.consumeRuleTx_eq_ok hf
      have hrules : u.db.rules = db.rules := ((hw.trans hR).trans hR').rules
      refine RuleCharged.of_rules ?_ ht.rules
      simp only [RuleCharged, hm, if_true, World.commit_db, hrules]
      exact ⟨old, hrules ▸ hold, rfl⟩
    · rintro _ _ ⟨⟩
    · exact ⟨by simp, by simp [adapterCalls, Event.isAdapterCall], by simp⟩
  refine Safe.tryCatch (P := fun h' r w' => h <+: h' ∧ adapterCalls h' = adapterCalls h ∧
      (r = .ok true → RuleCharged db w'.db request (some id))) ?_ (fun _ _ _ hP => hP)
    fun h' e w' hP => ?_
  · refine hconsume.bind (fun h' rule w' hP => Safe.ret fun v hR _ => ?_)
      fun h' e w' hP => ⟨hP.1, hP.2.1, by simp⟩
    exact ⟨hP.1, hP.2.1, fun _ => (hP.2.2 rule rfl).of_rules hR.rules⟩
  · cases e <;> first
      | exact Safe.ret fun _ _ _ => ⟨hP.1, hP.2.1, by simp⟩
      | exact Safe.raise fun _ _ _ => ⟨hP.1, hP.2.1, by simp⟩

/-- A call keeps its contract, and makes one adapter call if its outcome tells of one. -/
theorem safe_execute (hw : SameGrants db w.db) :
    Safe (gateway.callContract db request) (gateway.execute request) [] w fun h r _ =>
      ∀ o, r = .ok o → adapterCalls h = if o.state.called then 1 else 0 := by
  unfold execute
  split_ifs with hresolves
  · exact Safe.ret fun w' _ _ o ho => by cases ho; rfl
  · refine (safe_read hw).bind (fun h₁ authorized w₁ hP => ?_) (by simp)
    obtain ⟨hk₁, m, d, hd, hauthorized⟩ := hP
    refine (safe_evaluate authorized hk₁.grants).bind (fun h₂ s w₂ hP => ?_) (by simp)
    obtain ⟨hkept, hcalls⟩ := hP s rfl
    have hzero : adapterCalls h₂ = 0 := hcalls.trans hk₁.calls
    split
    · exact Safe.ret fun w' _ _ o ho => by cases ho; exact hzero
    · exact Safe.ret fun w' _ _ o ho => by cases ho; exact hzero
    · refine (safe_safety (every_record _)).bind (fun h₃ _ w₃ hn => ?_) (by simp)
      exact Safe.ret fun w' _ _ o ho => by cases ho; exact hn.trans hzero
    · next hallow =>
      obtain ⟨hk₂, hev⟩ := hkept (by simp [hallow])
      have hauth : gateway.Authorized db h₂ request s.scopedRuleId := by
        refine Evaluated.authorized ?_ (by simpa using hresolves) hallow
        rw [Except.ok.inj hauthorized] at hev
        simpa only [hasExactPermissionTx, hd.agents] using hev
      have hcalled : ∀ {h' : List Event} {rule : Option String} {v : World},
          gateway.Authorized db h' request rule → RuleCharged db v.db request rule →
          adapterCalls h' = 0 →
          Safe (gateway.callContract db request) (callAdapter request rule) h' v fun h r _ =>
            ∀ o, r = .ok o → adapterCalls h = if o.state.called then 1 else 0 := by
        intro h' rule v ha hc hz
        refine (safe_callAdapter ha hc).mono fun h'' r _ hP o ho => ?_
        rw [(hP o ho).2, (hP o ho).1, hz, if_pos rfl]
      split
      · next id hm hid =>
        rw [hid] at hauth
        refine (safe_tryConsume hk₂.grants hm).bind (fun h₃ consumed w₃ hP => ?_) (by simp)
        obtain ⟨hh, hn, hcharged⟩ := hP
        cases consumed with
        | true => exact hcalled (hauth.mono hh) (hcharged rfl) (hn.trans hzero)
        | false =>
          refine (safe_safety (every_record _)).bind (fun h₄ _ w₄ hn' => ?_) (by simp)
          exact Safe.ret fun w' _ _ o ho => by cases ho; exact hn'.trans (hn.trans hzero)
      · next hno =>
        refine hcalled hauth ?_ hzero
        unfold RuleCharged
        split
        · next id hid =>
          rw [if_neg fun hm => hno id hm hid]
          exact hk₂.grants.rules
        · exact hk₂.grants.rules

/-- Authorization soundness: while the grants in the tables do not change, every adapter call
that a gateway call comes to is for its own request, has every authorization that the request
asks for, and has had the scoped rule of a mutating request counted once; and an outcome tells
whether the adapter has been called, which it has been at most once. -/
theorem execute_authorized (gateway : ToolGateway) (request : ToolRequest) (w₀ : World)
    {p : Py ToolOutcome} {h : List Event} {w : World}
    (hx : Prog.Exec (fun w w' : World => SameGrants w.db w'.db) (gateway.execute request) [] w₀
      p h w) :
    (∀ request' rule, p.nextEvent w = some (.adapterCall request' rule) →
      request' = request ∧ gateway.Authorized w₀.db h request rule ∧
        RuleCharged w₀.db w.db request rule) ∧
    ∀ o, p.outcome = some (.ok o) → adapterCalls h = if o.state.called then 1 else 0 := by
  have hcall : Safe (gateway.callContract w₀.db request) (gateway.execute request) [] w₀ _ :=
    safe_execute (SameGrants.refl w₀.db)
  obtain ⟨hsafe, -⟩ := hcall.exec (fun _ _ _ h => ⟨h, trivial⟩) (fun _ _ _ _ => trivial) trivial hx
  refine ⟨fun request' rule hev => ?_, fun o ho => hsafe.post trivial ho o rfl⟩
  obtain ⟨w', hg⟩ := hsafe.guar_nextEvent trivial (fun _ _ _ _ => trivial) hev
  exact hg request' rule rfl

/-! ### A restart under a scoped rule -/

def recoverGateway : ToolGateway where
  registry := ⟨["service.recover"], by decide, by decide⟩
  safety.approvals.sha256 := fun _ =>
    "e70d4c2a224dd3edb89a2f01c846cad4e4cb407748e514b7d4d89fe675a1623b"

def recoverRequest : ToolRequest :=
  { missionId := "recovery", agentKey := "sysadmin", capability := "service.recover",
    target := "dripvid", risk := .blue, mutatesExternalState := true }

def recoverWorld : World where
  db :=
    { agents := ⟨[{ key := "sysadmin", permissions := some [.str "service.recover"] }], by simp⟩
      rules := ⟨[
        { id := "restart", action := "service.recover", target := "dripvid", risk := .blue,
          conditions := [], expiresAt := hours 1, maxExecutionCount := some 1 }], by simp⟩
      systemState := some { operatingMode := "normal", simulationMode := false } }

def recoverCall (n : ℕ) : Py ToolOutcome × List Event × World :=
  Prog.advance n (recoverGateway.execute recoverRequest, [], recoverWorld)

theorem execute_authorized_recover :
    (recoverGateway.Authorized recoverWorld.db (recoverCall 11).2.1 recoverRequest
        (some "restart") ∧
      RuleCharged recoverWorld.db (recoverCall 11).2.2.db recoverRequest (some "restart")) ∧
    adapterCalls (recoverCall 14).2.1 = 1 :=
  ⟨((execute_authorized recoverGateway recoverRequest recoverWorld
      (Prog.exec_advance _ 11 _ _ _)).1 recoverRequest (some "restart") (by rfl)).2,
    (execute_authorized recoverGateway recoverRequest recoverWorld
      (Prog.exec_advance _ 14 _ _ _)).2
      { state := .executed, capability := "service.recover", result := some (.obj []) } (by rfl)⟩

end ToolGateway
end AiHq
