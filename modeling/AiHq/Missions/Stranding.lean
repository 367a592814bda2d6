import AiHq.Missions.Executor

/-!
# Stranded steps

Between the claim of a step and the transition that moves it on, a worker starts the mission,
reads the payload of the step and calls the gateway. Whatever raises there leaves the step
RUNNING, with no worker to move it on.
-/

namespace AiHq

open Concurrent Relational MissionService MissionExecutor

namespace Stranding

inductive Call where
  | runNext (executor : MissionExecutor) (missionId : String)
  | resumeApproved (executor : MissionExecutor) (missionId : String)

/-- Anything else may happen, except to the steps that there are. -/
def system : System Call PyError Event World MissionExecutionResult where
  code
    | .runNext executor missionId => executor.runNext missionId
    | .resumeApproved executor missionId => executor.resumeApproved missionId
  env w w' := ∀ s ∈ w.db.steps.rows, s ∈ w'.db.steps.rows

abbrev StepPool := Pool Call PyError Event World MissionExecutionResult

/-- The identifiers that are drawn for new rows are new. -/
def DatabaseOk (p : StepPool) (l : Label Call Event) (_ : StepPool) : Prop :=
  match l with
  | .act _ _ _ => p.state.db.approvals.get? (p.state.moment.ids 0) = none
  | _ => True

/-- The payload of a step has no conditions, or conditions that are an object. -/
def WellFormed (step : MissionStep) : Prop :=
  ∀ value, Dict.get (step.toolArguments.getD []) "conditions" = some value →
    ∃ fields, value = .obj fields

/-- Nothing keeps the worker from moving on the step that it has claimed: its payload is well
formed, the mission may start when the worker starts it, and the adapter raises no error but its
own. -/
def Unhindered (w : World) : Event → Prop
  | .stepClaimed k => ∀ step, w.db.steps.get? k = some step → WellFormed step
  | .missionTransition m .running => ∃ mission, w.db.missions.get? m = some mission ∧
      .running ∈ allowedTransitions mission.status
  | .adapterCall request _ => ∀ error, w.adapter request = .error error →
      ∃ message, error = .toolAdapterError message
  | _ => True

/-- Every action of a call, from its claim of a step on, is unhindered. -/
def Unhindering (p : StepPool) (l : Label Call Event) (_ : StepPool) : Prop :=
  match l with
  | .act t _ e => ∀ th, p.threads[t]? = some th → (∃ k, .stepClaimed k ∈ th.history ++ [e]) →
      Unhindered p.state e
  | _ => True

/-! ### What the calls do to steps -/

/-- Events of what moves a step. -/
def Event.MovesStep : Event → Prop
  | .stepClaimed _ | .stepAt _ _ | .stepRefused _ _ => True
  | _ => False

/-- The effect of one action of a call on the steps. -/
inductive StepAction (w w' : World) : Event → Prop where
  | claimed {step : MissionStep} (hstep : w.db.steps.get? step.id = some step)
      (hpending : step.status = .pending)
      (hset : w'.db.steps = w.db.steps.set { step with status := .running }) :
      StepAction w w' (.stepClaimed step.id)
  | moved {step step' : MissionStep} {target : MissionStepStatus}
      (hset : w'.db.steps = w.db.steps.set step')
      (hstep : w.db.steps.get? step.id = some step)
      (hallowed : target ∈ allowedStepTransitions step.status) (hstatus : step'.status = target)
      (hid : step'.id = step.id) (harguments : step'.toolArguments = step.toolArguments) :
      StepAction w w' (.stepAt step.id target)
  | refused {step : MissionStep} {target : MissionStepStatus}
      (hstep : w.db.steps.get? step.id = some step) (hbegun : step.status ≠ .pending)
      (hallowed : target ∉ allowedStepTransitions step.status)
      (hsteps : w'.db.steps = w.db.steps) : StepAction w w' (.stepRefused step.id target)
  | other {e : Event} (hsteps : w'.db.steps = w.db.steps) (he : ¬Event.MovesStep e) :
      StepAction w w' e

/-- The steps are still there, with their payload, and what has begun is not pending again. -/
def Kept (db db' : Database) : Prop :=
  ∀ k s, db.steps.get? k = some s → ∃ s', db'.steps.get? k = some s' ∧
    s'.toolArguments = s.toolArguments ∧ (s.status ≠ .pending → s'.status ≠ .pending)

lemma Kept.refl (db : Database) : Kept db db := fun _ s hs => ⟨s, hs, rfl, id⟩

lemma Kept.trans {db₁ db₂ db₃ : Database} (h : Kept db₁ db₂) (h' : Kept db₂ db₃) :
    Kept db₁ db₃ := by
  intro k s hs
  obtain ⟨s', hs', hargs, hbegun⟩ := h k s hs
  obtain ⟨s'', hs'', hargs', hbegun'⟩ := h' k s' hs'
  exact ⟨s'', hs'', hargs'.trans hargs, hbegun' ∘ hbegun⟩

lemma Kept.of_steps {db db' : Database} (h : db'.steps = db.steps) : Kept db db' := by
  rw [Kept, h]
  exact Kept.refl db

lemma Kept.of_mem {db db' : Database} (h : ∀ s ∈ db.steps.rows, s ∈ db'.steps.rows) :
    Kept db db' := by
  intro k s hs
  obtain ⟨hmem, hk⟩ := Table.get?_eq_some.mp hs
  exact ⟨s, Table.get?_eq_some.mpr ⟨h s hmem, hk⟩, rfl, id⟩

lemma kept_set {db db' : Database} {s s' : MissionStep} (hset : db'.steps = db.steps.set s')
    (hs : db.steps.get? s.id = some s) (hid : s'.id = s.id)
    (hargs : s'.toolArguments = s.toolArguments) (hbegun : s'.status ≠ .pending) :
    Kept db db' := by
  have hget : db.steps.get? (key s') = some s := by
    rw [key_missionStep, hid, hs]
  intro k x hx
  rw [hset]
  by_cases hk : k = key s'
  · subst hk
    cases hget.symm.trans hx
    exact ⟨s', Table.get?_set_self hget, hargs, fun _ => hbegun⟩
  · exact ⟨x, (Table.get?_set_ne hk).trans hx, rfl, id⟩

lemma not_pending_of_allowed {status target : MissionStepStatus}
    (h : target ∈ allowedStepTransitions status) : target ≠ .pending := by
  cases status <;> cases target <;> simp_all [allowedStepTransitions]

lemma StepAction.kept {w w' : World} {e : Event} (ha : StepAction w w' e) : Kept w.db w'.db := by
  cases ha with
  | claimed hstep _ hset => exact kept_set hset hstep rfl rfl (by simp)
  | moved hset hstep hallowed hstatus hid hargs =>
    exact kept_set hset hstep hid hargs (hstatus ▸ not_pending_of_allowed hallowed)
  | refused _ _ _ hsteps => exact .of_steps hsteps
  | other hsteps _ => exact .of_steps hsteps

/-! ### The contract of a call -/

/-- The step has begun. -/
def Begun (k : String) (w : World) : Prop :=
  ∃ s, w.db.steps.get? k = some s ∧ s.status ≠ .pending

/-- The steps that the call has claimed. -/
def claims (h : List Event) : Set String := { k | .stepClaimed k ∈ h }

/-- The call has moved the step on from RUNNING, or has found that it is there no more. -/
def MovedOn (k : String) (h : List Event) : Prop :=
  ∃ target ∈ allowedStepTransitions .running, .stepAt k target ∈ h ∨ .stepRefused k target ∈ h

/-- The call has moved on what it has claimed. -/
def Settled {α : Type} (h : List Event) (_ : Except PyError α) (_ : World) : Prop :=
  ∀ k ∈ claims h, MovedOn k h

/-- Others keep the steps. -/
def contract : Contract Event World where
  rely w w' := Kept w.db w'.db
  cond h w e _ := w.db.approvals.get? (w.moment.ids 0) = none ∧
    ((∃ k, .stepClaimed k ∈ h ++ [e]) → Unhindered w e)
  guar _ w e w' := StepAction w w' e
  rely_refl w := .refl w.db
  rely_trans _ _ _ h h' := h.trans h'

variable {k : String} {h : List Event} {w w' : World} {e : Event} {α β : Type}

lemma Begun.kept (hb : Begun k w) (h : Kept w.db w'.db) : Begun k w' := by
  obtain ⟨s, hs, hst⟩ := hb
  obtain ⟨s', hs', -, hbegun⟩ := h k s hs
  exact ⟨s', hs', hbegun hst⟩

lemma action_of_aside (ha : Aside w e w') : StepAction w w' e := by
  refine .other ha.steps ?_
  intro he
  apply ha.event
  cases e <;> simp_all [Event.MovesStep, Event.OfStep]

lemma action_silent (w : World) : StepAction w w .silent := action_of_aside (aside_silent w)

lemma claims_append {l : List Event} (hl : ∀ e ∈ l, ¬e.OfStep) : claims (h ++ l) = claims h := by
  ext k
  simp only [claims, List.mem_append, Set.mem_ofPred_eq, or_iff_left_iff_imp]
  intro hk
  exact absurd trivial (hl _ hk)

lemma claims_snoc (h : List Event) (he : ∀ k, e ≠ .stepClaimed k) :
    claims (h ++ [e]) = claims h := by
  ext k
  simp [claims, (he k).symm]

/-- A part of the call that leaves the steps alone claims nothing. -/
lemma safe_aside {p : Py α} (hp : Every Aside p) (h : List Event) (w : World) :
    Safe contract p h w fun h' _ w' => Kept w.db w'.db ∧ ∃ l, h' = h ++ l ∧ ∀ e ∈ l, ¬e.OfStep :=
  hp.safe (C := contract) (F := fun w w' => Kept w.db w'.db) (N := fun e => ¬e.OfStep)
    (fun _ _ _ _ _ _ ha => ⟨action_of_aside ha, trivial, .of_steps ha.steps, ha.event⟩)
    (fun _ _ hR => hR) (fun _ _ _ h h' => h.trans h') h w

lemma settled_of_unclaimed {r : Except PyError α} (hclaims : claims h = ∅) : Settled h r w := by
  intro k hk
  rw [hclaims] at hk
  exact hk.elim

/-- A call that has claimed nothing goes on, or ends, with nothing claimed. -/
lemma safe_unclaimed_bind {p : Py α} {c : α → Py β} (hp : Every Aside p) (hclaims : claims h = ∅)
    (hc : ∀ h' a w', Kept w.db w'.db → claims h' = ∅ → Safe contract (c a) h' w' Settled) :
    Safe contract (p >>= c) h w Settled := by
  apply (safe_aside hp h w).bind
  · rintro h' a w' ⟨hkept, l, rfl, hl⟩
    exact hc _ a w' hkept ((claims_append hl).trans hclaims)
  · rintro h' e w' ⟨-, l, rfl, hl⟩
    exact settled_of_unclaimed ((claims_append hl).trans hclaims)

section TransitionStep

variable {target : MissionStepStatus} {result errorState : Option Json}
  {approvalReference : Option String}

lemma moved_of_transitionStepTx {s' : MissionStep} {db : Database}
    (hf : transitionStepTx k target result errorState approvalReference w.db = .ok (s', db)) :
    StepAction w (w.commit 0 db) (.stepAt k target) ∧ s'.id = k ∧ s'.status = target ∧
      db.steps.get? k = some s' := by
  obtain ⟨s, hget, hallowed, rfl, rfl⟩ := transitionStepTx_eq_ok hf
  obtain rfl : s.id = k := Table.key_of_get? hget
  refine ⟨.moved rfl hget hallowed rfl rfl rfl, rfl, rfl, ?_⟩
  exact Table.get?_set_self (r := { s with
    status := target
    result := result.or s.result
    errorState := errorState.or s.errorState
    approvalReference := approvalReference.or s.approvalReference }) hget

lemma refused_of_transitionStepTx {e : PyError} (hb : Begun k w)
    (hf : transitionStepTx k target result errorState approvalReference w.db = .error e) :
    StepAction w w (.stepRefused k target) := by
  obtain ⟨s, hget, hst⟩ := hb
  obtain rfl : s.id = k := Table.key_of_get? hget
  refine .refused hget hst (fun hallowed => ?_) rfl
  simp [transitionStepTx, hget, raiseIf, hallowed, bind, Except.bind, pure, Except.pure] at hf

/-- After the transition of its step, a call has settled whatever it does then. -/
lemma safe_transitionStep_bind {c : MissionStep → Py β} (hb : Begun k w)
    (hclaims : claims h ⊆ {k}) (htarget : target ∈ allowedStepTransitions .running)
    (hc : ∀ s, Every Aside (c s)) :
    Safe contract (transitionStep k target result errorState approvalReference >>= c) h w
      Settled := by
  rw [transitionStep, Py.session]
  apply Py.safe_transaction_bind
  · intro v s' db _ _ hf _
    refine ⟨(moved_of_transitionStepTx hf).1, trivial, ?_⟩
    apply (safe_aside (hc _) _ _).mono
    rintro h' _ w' ⟨-, l, rfl, hl⟩ k' hk'
    rw [claims_append hl] at hk'
    have hk' : k' ∈ claims h := by simpa [claims] using hk'
    obtain rfl := hclaims hk'
    exact ⟨target, htarget, .inl (by simp)⟩
  · intro v e hR _ hf _
    refine ⟨refused_of_transitionStepTx (hb.kept hR) hf, .raise fun w' _ _ k' hk' => ?_⟩
    have hk' : k' ∈ claims h := by simpa [claims] using hk'
    obtain rfl := hclaims hk'
    exact ⟨target, htarget, .inr (by simp)⟩

end TransitionStep

lemma safe_settle (self : MissionExecutor) (mission : Mission) {step : MissionStep}
    (outcome : ToolOutcome) (hb : Begun step.id w) (hclaims : claims h ⊆ {step.id}) :
    Safe contract (self.settle mission step outcome) h w Settled := by
  unfold MissionExecutor.settle
  split
  · exact safe_transitionStep_bind hb hclaims (by decide) fun s =>
      (every_transition ..).bind fun _ => .ret _
  · exact safe_transitionStep_bind hb hclaims (by decide) fun s =>
      every_complete self mission s outcome
  · exact safe_transitionStep_bind hb hclaims (by decide) fun s =>
      every_complete self mission s outcome
  · exact safe_transitionStep_bind hb hclaims (by decide) fun s =>
      (every_transition ..).bind fun _ => .ret _
  · exact safe_transitionStep_bind hb hclaims (by decide) fun s =>
      (every_transition ..).bind fun _ => .ret _

/-- What an action of a call that has claimed a step may count on. -/
def Favoured (w : World) (e : Event) (_ : World) : Prop :=
  w.db.approvals.get? (w.moment.ids 0) = none ∧ Unhindered w e

/-- A call that has claimed a step gets past what does not raise when nothing hinders it. -/
lemma safe_claimed_bind {p : Py α} {c : α → Py β} (hp : Every Aside p)
    (hy : Yields Favoured p (Py.RaisesOnly fun _ => False)) (hclaims : claims h = {k})
    (hc : ∀ h' a w', Kept w.db w'.db → claims h' = {k} → Safe contract (c a) h' w' Settled) :
    Safe contract (p >>= c) h w Settled := by
  have hclaimed : ∃ k, .stepClaimed k ∈ h := ⟨k, show k ∈ claims h by simp [hclaims]⟩
  have hsafe := hp.safe_yields (C := contract) (F := fun w w' => Kept w.db w'.db)
    (N := fun e => ¬e.OfStep) (H := fun h => ∃ k, .stepClaimed k ∈ h) hy
    (fun h s e s' hH _ hcond ha => by
      obtain ⟨k, hk⟩ := hH
      refine ⟨action_of_aside ha, trivial, .of_steps ha.steps, ha.event, ⟨hcond.1, ?_⟩, k, ?_⟩
      · exact hcond.2 ⟨k, List.mem_append_left _ hk⟩
      · exact List.mem_append_left _ hk)
    (fun _ _ hR => hR) (fun _ _ _ h h' => h.trans h') h w hclaimed
  apply hsafe.bind
  · rintro h' a w' ⟨hkept, ⟨l, rfl, hl⟩, -⟩
    exact hc _ a w' hkept ((claims_append hl).trans hclaims)
  · rintro h' e w' ⟨-, -, hraise⟩
    exact (hraise e rfl).elim

lemma yields_startQueued (self : MissionExecutor) (mission : Mission) :
    Yields Favoured (self.startQueued mission) (Py.RaisesOnly fun _ => False) := by
  unfold MissionExecutor.startQueued
  split_ifs
  · rw [MissionService.transition, Py.session]
    apply Py.yields_transaction
    · intro w a db _ _
      exact Py.raisesOnly_ok a
    · rintro w e he ⟨-, found, hfound, hallowed⟩
      simp [transitionTx, getMissionTx, hfound, raiseIf, hallowed, bind, Except.bind, pure,
        Except.pure] at he
  · exact Py.yields_ret mission

lemma yields_gateway (gateway : ToolGateway) (request : ToolRequest) :
    Yields Favoured (gateway.execute request) (Py.RaisesOnly fun _ => False) := by
  apply (gateway.yields_execute request).mono_cond
  rintro w e w' ⟨hfresh, he⟩
  refine ⟨hfresh, ?_⟩
  rintro request rule rfl
  exact he

lemma requestFor_of_wellFormed (mission : Mission) {step : MissionStep} (hwf : WellFormed step) :
    ∃ request, requestFor mission step = .ok request := by
  have hconditions : ∃ fields, (Dict.pop (Dict.pop (step.toolArguments.getD []) "target"
      (.str mission.id)).2 "conditions" (.obj [])).1 = .obj fields := by
    rw [Dict.pop, Dict.get_pop_ne _ _ (by decide)]
    cases hget : Dict.get (step.toolArguments.getD []) "conditions" with
    | none => exact ⟨[], rfl⟩
    | some value => exact hwf value hget
  obtain ⟨fields, hfields⟩ := hconditions
  simp only [requestFor, hfields]
  exact ⟨_, rfl⟩

/-- A call that has claimed a step with a well-formed payload settles it. -/
lemma safe_perform (self : MissionExecutor) (mission : Mission) {step : MissionStep}
    (hb : Begun step.id w) (hclaims : claims h = {step.id}) (hwf : WellFormed step) :
    Safe contract (self.perform mission step) h w Settled := by
  obtain ⟨request, hrequest⟩ := requestFor_of_wellFormed mission hwf
  rw [MissionExecutor.perform, hrequest]
  change Safe contract (Py.show_ (.gatewayRequest step.id) >>= fun _ =>
    self.gateway.execute request >>= self.settle mission step) h w Settled
  refine Py.safe_query_bind (fun v _ hR _ _ _ => ⟨StepAction.other rfl id, ?_⟩) fun v e _ _ he => by cases he
  have hshown := (claims_snoc (e := .gatewayRequest step.id) h (by simp)).trans hclaims
  apply safe_claimed_bind ((self.gateway.every_execute request).mono fun _ _ _ => aside_of_gateway)
    (yields_gateway self.gateway request) hshown
  intro h' outcome w' hkept hclaims'
  exact safe_settle self mission outcome ((hb.kept hR).kept hkept) hclaims'.le

/-- What a call that has claimed nothing does with a step that has begun. -/
lemma safe_perform_unclaimed (self : MissionExecutor) (mission : Mission) {step : MissionStep}
    (hb : Begun step.id w) (hclaims : claims h = ∅) :
    Safe contract (self.perform mission step) h w Settled := by
  apply Py.safe_lift_bind
  · intro request _
    refine Py.safe_query_bind (fun v _ hR _ _ _ => ⟨StepAction.other rfl id, ?_⟩)
      fun v e _ _ he => by cases he
    have hshown := (claims_snoc (e := .gatewayRequest step.id) h (by simp)).trans hclaims
    apply safe_unclaimed_bind
      ((self.gateway.every_execute request).mono fun _ _ _ => aside_of_gateway) hshown
    intro h' outcome w' hkept hclaims'
    exact safe_settle self mission outcome ((hb.kept hR).kept hkept)
      (hclaims'.le.trans (Set.empty_subset _))
  · intro e _
    exact .raise fun _ _ _ => settled_of_unclaimed hclaims

/-- What the claim of a step leaves behind: the step with its payload, or no claim. -/
def ClaimPost (h : List Event) (r : Except PyError (Option MissionStep)) (w : World) : Prop :=
  (claims h = ∅ ∧ ∀ s, r ≠ .ok (some s)) ∨
    ∃ s, r = .ok (some s) ∧ claims h = {s.id} ∧ Begun s.id w ∧ WellFormed s

lemma safe_claimNextPendingStep (missionId : String) (w : World) (hclaims : claims h = ∅) :
    Safe contract (claimNextPendingStep missionId) h w ClaimPost := by
  refine Py.safe_query_bind (fun v first _ _ _ _ => ⟨action_silent v, ?_⟩) fun v e _ _ he => by
    cases he
  have hnone : claims (h ++ [.silent]) = ∅ := (claims_snoc h (by simp)).trans hclaims
  cases first with
  | none => exact .ret fun _ _ _ => .inl ⟨hnone, by simp⟩
  | some stepId =>
    refine Py.safe_transaction_bind (fun u claimed db _ _ htx hcond => ?_)
      fun u e _ _ he => by cases he
    cases claimed with
    | false =>
      obtain rfl := claimStepTx_false (Except.ok.inj htx)
      refine ⟨action_silent u, trivial, .ret fun _ _ _ => .inl ⟨?_, by simp⟩⟩
      exact (claims_snoc _ (by simp)).trans hnone
    | true =>
      obtain ⟨s, hget, hpending, rfl⟩ := claimStepTx_true (Except.ok.inj htx)
      obtain rfl : s.id = stepId := Table.key_of_get? hget
      have hwf : WellFormed s := hcond.2 ⟨s.id, by simp⟩ s hget
      have hset := Table.get?_set_self (r := { s with status := .running }) hget
      refine ⟨.claimed hget hpending rfl, trivial, ?_⟩
      have hclaims' : claims (h ++ [.silent] ++ [.stepClaimed s.id]) = {s.id} := by
        ext k
        have hk : .stepClaimed k ∉ h := fun hk => by
          have : k ∈ claims h := hk
          simp [hclaims] at this
        simp [claims, hk]
      refine Py.safe_query (fun x r hx _ hr _ => ⟨action_silent x, fun y hy _ => ?_⟩)
        fun x e _ _ he => by cases he
      obtain ⟨s', hget', hargs, hbegun⟩ := hx s.id _ hset
      obtain rfl : r = some s' := (Except.ok.inj hr).symm.trans hget'
      obtain hid : s'.id = s.id := Table.key_of_get? hget'
      have hb : Begun s.id x := ⟨s', hget', hbegun (by simp)⟩
      refine .inr ⟨s', rfl, ?_, ?_, ?_⟩
      · rw [claims_snoc _ (by simp), hid]
        exact hclaims'
      · rw [hid]
        exact hb.kept hy
      · intro value hvalue
        exact hwf value (hargs ▸ hvalue)

lemma safe_advance (self : MissionExecutor) (mission : Mission) (w : World)
    (hclaims : claims h = ∅) : Safe contract (self.advance mission) h w Settled := by
  apply (safe_claimNextPendingStep mission.id w hclaims).bind
  · rintro h' step w' (⟨hnone, hstep⟩ | ⟨s, hs, hclaims', hb, hwf⟩)
    · cases step with
      | some s => exact absurd rfl (hstep s)
      | none =>
        apply (safe_aside (every_finish self mission) h' w').mono
        rintro h'' r w'' ⟨-, l, rfl, hl⟩
        exact settled_of_unclaimed ((claims_append hl).trans hnone)
    · cases hs
      apply safe_claimed_bind (every_startQueued self mission) (yields_startQueued self mission)
        hclaims'
      intro h'' mission w'' hkept hclaims''
      exact safe_perform self mission (hb.kept hkept) hclaims'' hwf
  · rintro h' e w' (⟨hnone, -⟩ | ⟨s, hs, -⟩)
    · exact settled_of_unclaimed hnone
    · cases hs

lemma safe_runNext (self : MissionExecutor) (missionId : String) (w : World) :
    Safe contract (self.runNext missionId) [] w Settled := by
  apply safe_unclaimed_bind every_query (by simp [claims])
  intro h mission w _ hclaims
  split
  · exact .ret fun _ _ _ => settled_of_unclaimed hclaims
  · exact .ret fun _ _ _ => settled_of_unclaimed hclaims
  · exact .ret fun _ _ _ => settled_of_unclaimed hclaims
  · apply safe_unclaimed_bind every_query hclaims
    intro h waiting w _ hclaims
    cases waiting with
    | none => exact safe_advance self mission w hclaims
    | some waiting => exact .ret fun _ _ _ => settled_of_unclaimed hclaims
  all_goals exact safe_advance self mission w hclaims

lemma safe_resumeApproved (self : MissionExecutor) (missionId : String) (w : World) :
    Safe contract (self.resumeApproved missionId) [] w Settled := by
  apply safe_unclaimed_bind every_query (by simp [claims])
  intro h mission w _ hclaims
  refine Py.safe_lift_bind (fun _ _ => ?_) fun _ _ =>
    .raise fun _ _ _ => settled_of_unclaimed hclaims
  have hclaims : claims (h ++ [.silent]) = ∅ := (claims_snoc h (by simp)).trans hclaims
  refine Py.safe_query_bind (fun v step _ _ hstep _ => ⟨action_silent v, ?_⟩)
    fun v e _ _ _ _ => ⟨action_silent v, .raise fun _ _ _ => settled_of_unclaimed hclaims⟩
  cases step with
  | none => exact .raise fun _ _ _ => settled_of_unclaimed hclaims
  | some step =>
    simp only [bind_eq_ok] at hstep
    obtain ⟨_, -, hfirst⟩ := hstep
    have hmem := mem_of_firstBy (Except.ok.inj hfirst)
    simp only [List.mem_filter, Bool.and_eq_true, decide_eq_true_eq] at hmem
    have hb : Begun step.id v := ⟨step, Table.get?_of_mem hmem.1, by simp [hmem.2.2]⟩
    dsimp only
    rw [transitionStep, Py.session]
    apply Py.safe_transaction_bind
    · intro u s' db _ _ hf _
      obtain ⟨hmoved, hid, hstatus, hget⟩ := moved_of_transitionStepTx hf
      have hb' : Begun s'.id (u.commit 0 db) := ⟨s', hid ▸ hget, by simp [hstatus]⟩
      refine ⟨hmoved, trivial, ?_⟩
      apply safe_unclaimed_bind (every_transition ..) ((claims_snoc _ (by simp)).trans hclaims)
      intro h'' mission w'' hkept hclaims''
      exact safe_perform_unclaimed self mission (hb'.kept hkept) hclaims''
    · intro u e hR _ hf _
      refine ⟨refused_of_transitionStepTx (hb.kept hR) hf, .raise fun _ _ _ => ?_⟩
      exact settled_of_unclaimed ((claims_snoc _ (by simp)).trans hclaims)

/-! ### Every run -/

variable {ok : StepPool → Label Call Event → StepPool → Prop} {p q : StepPool}

lemma compatible : Pool.Compatible system (fun p l q => DatabaseOk p l q ∧ Unhindering p l q)
    (fun _ => True) (fun _ => contract) fun _ => Settled where
  inv_iff _ _ := Iff.rfl
  env _ _ _ henv _ := ⟨trivial, fun _ => .of_mem henv⟩
  act _ _ _ _ _ _ _ _ hg := hg.kept
  cond _ _ _ _ _ _ _ hok ht := ⟨hok.1, hok.2 _ ht⟩
  code p c _ _ _ := by
    cases c with
    | runNext executor missionId => exact safe_runNext executor missionId p.state
    | resumeApproved executor missionId => exact safe_resumeApproved executor missionId p.state

/-- The step is neither PENDING nor RUNNING, or has been resumed. -/
def Left (k : String) (p : StepPool) : Prop :=
  (∃ s, p.state.db.steps.get? k = some s ∧ s.status ≠ .pending ∧ s.status ≠ .running) ∨
    p.Shown (.stepAt k .running)

/-- A step that has left RUNNING returns there only by being resumed. -/
lemma Left.act {t : ℕ} {c : Call} (hl : Left k p) (hs : Pool.Step system p (.act t c e) q)
    (ha : StepAction p.state q.state e) : Left k q := by
  rcases hl with ⟨s, hget, hpending, hrunning⟩ | hshown
  · have hsame : q.state.db.steps = p.state.db.steps → Left k q := fun hsteps =>
      .inl ⟨s, hsteps ▸ hget, hpending, hrunning⟩
    obtain rfl : s.id = k := Table.key_of_get? hget
    cases ha with
    | @claimed step hstep hp hset =>
      have hne : s.id ≠ step.id := fun heq => by
        cases (heq ▸ hget).symm.trans hstep
        exact hpending hp
      refine .inl ⟨s, ?_, hpending, hrunning⟩
      rw [hset, Table.get?_set_ne hne, hget]
    | @moved step step' target hset hstep hallowed hstatus hid hargs =>
      by_cases heq : s.id = step.id
      · by_cases htarget : target = .running
        · subst htarget
          exact .inr (hs.shown.mpr (.inr ⟨t, c, by rw [heq]⟩))
        · refine .inl ⟨step', ?_, hstatus ▸ not_pending_of_allowed hallowed, hstatus ▸ htarget⟩
          rw [hset, heq, ← hid]
          exact Table.get?_set_self (by rw [key_missionStep, hid, hstep])
      · refine .inl ⟨s, ?_, hpending, hrunning⟩
        rw [hset, Table.get?_set_ne (by rwa [key_missionStep, hid]), hget]
    | refused _ _ _ hsteps => exact hsame hsteps
    | other hsteps _ => exact hsame hsteps
  · exact .inr (hs.shown.mpr (.inl hshown))

def reportWorld : World where
  db :=
    { missions := ⟨[
        { id := "report", title := "Report", description := "read the status",
          ownerAgent := "sysadmin", source := "hq_chat", createdAt := 0 }], by simp⟩
      steps := ⟨[
        { id := "read", missionId := "report", position := 1, description := "read the status",
          toolName := "status.read", toolArguments := some [] }], by simp⟩
      agents := ⟨[{ key := "sysadmin", permissions := some [.str "status.read"] }], by simp⟩
      systemState := some { operatingMode := "normal", simulationMode := false } }
  adapter := fun _ => .error (.other "JSONDecodeError")

def reportExecutor : MissionExecutor where
  missions := ⟨true⟩
  gateway :=
    { registry := ⟨["status.read"], by decide, by decide⟩
      safety := { approvals := ⟨id⟩ } }

def answeringWorld : World := { reportWorld with adapter := fun _ => .ok (.obj []) }

def answered : StepPool :=
  Pool.play system (Pool.init answeringWorld)
    (.spawn (.runNext reportExecutor "report") :: List.replicate 30 (.act 0))

end Stranding
end AiHq
