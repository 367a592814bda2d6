import AiHq.Delivery.Record

/-!
# The lifecycle of a mission

The status of a mission over every sequence of operations of the mission service and of the
delivery service, with decisions on approvals in between.
-/

namespace AiHq

open Concurrent Relational

namespace Lifecycle

inductive MissionOp where
  | createMission (title description ownerAgent source : String) (priority : MissionPriority)
      (risk : MissionRisk) (objectives dependencies : Option (List Json)) (xpReward : ℤ)
  | createPlan (missionId : String) (steps : List PlanEntry) (toolRegistry : Option ToolRegistry)
  | nextPendingStep (missionId : String)
  | claimNextPendingStep (missionId : String)
  | transitionStep (stepId : String) (target : MissionStepStatus) (result errorState : Option Json)
      (approvalReference : Option String)
  | listPlanSteps (missionId : String)
  | waitingApprovalStep (missionId : String)
  | planIsComplete (missionId : String)
  | getMission (missionId : String)
  | listMissions
  | oldestQueued
  | claimOldestCodeChange (workerId : String) (leaseSeconds : ℤ)
  | renewCodeChangeLease (missionId workerId : String) (leaseSeconds : ℤ)
  | releaseCodeChangeLease (missionId workerId : String)
  | recordResult (missionId : String) (result : Dict)
  | assignOwner (missionId ownerAgent : String)
  | transition (missionId : String) (target : MissionStatus) (result errorState : Option Dict)

/-- The world after the operation, with nothing in between its transactions. -/
def MissionOp.perform (self : MissionService) (w : World) : MissionOp → World
  | createMission title description ownerAgent source priority risk objectives dependencies
      xpReward =>
    ((self.createMission title description ownerAgent source priority risk objectives dependencies
      xpReward).run w).2
  | createPlan missionId steps toolRegistry =>
    ((MissionService.createPlan missionId steps toolRegistry).run w).2
  | nextPendingStep missionId => ((MissionService.nextPendingStep missionId).run w).2
  | claimNextPendingStep missionId => ((MissionService.claimNextPendingStep missionId).run w).2
  | transitionStep stepId target result errorState approvalReference =>
    ((MissionService.transitionStep stepId target result errorState approvalReference).run w).2
  | listPlanSteps missionId => ((MissionService.listPlanSteps missionId).run w).2
  | waitingApprovalStep missionId => ((MissionService.waitingApprovalStep missionId).run w).2
  | planIsComplete missionId => ((MissionService.planIsComplete missionId).run w).2
  | getMission missionId => ((MissionService.getMission missionId).run w).2
  | listMissions => (MissionService.listMissions.run w).2
  | oldestQueued => (MissionService.oldestQueued.run w).2
  | claimOldestCodeChange workerId leaseSeconds =>
    ((MissionService.claimOldestCodeChange workerId leaseSeconds).run w).2
  | renewCodeChangeLease missionId workerId leaseSeconds =>
    ((MissionService.renewCodeChangeLease missionId workerId leaseSeconds).run w).2
  | releaseCodeChangeLease missionId workerId =>
    ((MissionService.releaseCodeChangeLease missionId workerId).run w).2
  | recordResult missionId result => ((MissionService.recordResult missionId result).run w).2
  | assignOwner missionId ownerAgent => ((MissionService.assignOwner missionId ownerAgent).run w).2
  | transition missionId target result errorState =>
    ((self.transition missionId target result errorState).run w).2

/-- One operation of either service, a decision, or anything that leaves the missions alone. -/
inductive Move where
  | mission (self : MissionService) (o : MissionOp)
  | delivery (self : DeliveryService) (o : Record.Op)
  | decide (requestId : String) (decision : ApprovalState)
  | elapse

inductive Step (w : World) : Move → World → Prop where
  | mission (self : MissionService) (o : MissionOp) : Step w (.mission self o) (o.perform self w)
  | delivery (self : DeliveryService) (o : Record.Op) :
      Step w (.delivery self o) ((o.code self).run w).2
  | decide (requestId : String) (decision : ApprovalState) :
      Step w (.decide requestId decision) ((ApprovalService.decide requestId decision).run w).2
  | elapse {w' : World} (hmissions : w'.db.missions = w.db.missions) : Step w .elapse w'

/-- The steps from one world to another, each with the worlds before and after it. -/
inductive Run (w₀ : World) : List (World × Move × World) → World → Prop where
  | nil : Run w₀ [] w₀
  | snoc {steps : List (World × Move × World)} {w w' : World} {o : Move} (hr : Run w₀ steps w)
      (hs : Step w o w') : Run w₀ (steps ++ [(w, o, w')]) w'

/-! ### The law -/

/-- The status is the same, or it has moved along an edge of the table. -/
def Edge (m m' : Mission) : Prop :=
  m'.status = m.status ∨ m'.status ∈ allowedTransitions m.status

/-- No mission is gone, and each has kept its status or moved along an edge. -/
def Lawful (w w' : World) : Prop :=
  ∀ id m, w.db.missions.get? id = some m → ∃ m', w'.db.missions.get? id = some m' ∧ Edge m m'

/-- COMPLETED, FAILED and CANCELLED. -/
def Finished (m : Mission) : Prop := allowedTransitions m.status = []

/-- Every change of a status on the way is along an edge, and a mission that was finished has
its status still. -/
structure Obeyed (w₀ : World) (steps : List (World × Move × World)) (w : World) : Prop where
  edges : ∀ s ∈ steps, Lawful s.1 s.2.2
  absorbing : ∀ id m, w₀.db.missions.get? id = some m → Finished m →
    ∃ m', w.db.missions.get? id = some m' ∧ m'.status = m.status

/-- The step applies a rejection to a mission that is finished. -/
def Revives (w : World) : Move → Prop
  | .delivery _ (.applyHumanDecision missionId approvalReference changeRef) =>
    ∃ mission delivery, DeliveryService.Rejected missionId approvalReference changeRef w.now w.db
      mission delivery ∧ Finished mission
  | _ => False

/-! ### What a step does -/

variable {w w' : World} {db : Database} {m m' : Mission} {n : ℕ}

lemma Edge.refl (m : Mission) : Edge m m := .inl rfl

lemma Edge.of_finished (he : Edge m m') (hf : Finished m) : m'.status = m.status := by
  rcases he with he | he
  · exact he
  · rw [hf] at he
    cases he

lemma edge_running (hf : ¬Finished m) : Edge m { m with status := .running } := by
  cases hs : m.status <;> simp_all [Edge, Finished, allowedTransitions]

lemma lawful_same (h : w'.db.missions = w.db.missions) : Lawful w w' := by
  intro id m hm
  exact ⟨m, h ▸ hm, .refl m⟩

lemma lawful_inserted (h : w.db.missions.insert? m = some w'.db.missions) : Lawful w w' := by
  intro id x hx
  exact ⟨x, Table.get?_insert?_of_some h hx, .refl x⟩

lemma lawful_set (h : w'.db.missions = w.db.missions.set m') {id : String}
    (hm : w.db.missions.get? id = some m) (hid : m'.id = m.id) (he : Edge m m') : Lawful w w' := by
  intro k x hx
  rw [h]
  obtain rfl : m.id = id := Table.key_of_get? hm
  by_cases hk : k = key m'
  · subst hk
    rw [key_mission, hid, hm] at hx
    cases hx
    refine ⟨m', Table.get?_set_self (?_ : _ = some m), he⟩
    rw [key_mission, hid, hm]
  · exact ⟨x, (Table.get?_set_ne hk).trans hx, .refl x⟩

lemma lawful_transaction {α : Type} {f : Moment → Database → Except PyError (α × Database)}
    {ev : Except PyError α → Event}
    (hok : ∀ a db, f w.moment w.db = .ok (a, db) → Lawful w (w.commit n db)) :
    Lawful w ((Py.transaction n f ev).run w).2 := by
  rw [Py.run_transaction]
  split
  · next a db hf => exact hok a db hf
  · exact lawful_same rfl

lemma lawful_guard {α β : Type} {x : Except PyError β} {p : Py α} (hp : Lawful w (p.run w).2) :
    Lawful w ((Py.lift x >>= fun _ => p).run w).2 := by
  rw [Py.run_lift_bind]
  cases x with
  | ok b => exact hp
  | error e => exact lawful_same rfl

lemma lawful_query {α : Type} {g : Moment → Database → Except PyError α}
    {ev : Except PyError α → Event} : Lawful w ((Py.query g ev).run w).2 := by
  rw [Py.query, Py.session]
  apply lawful_transaction
  intro a db h
  obtain ⟨b, -, h⟩ := Py.map_eq_ok.mp h
  cases h
  exact lawful_same rfl

section Missions

variable (self : MissionService)

/-- A claim takes at most one mission, and that from QUEUED or RUNNING. -/
lemma lawful_claimFirst (workerId : String) (expiresAt : Datetime) (candidateIds : List String) :
    Lawful w ((MissionService.claimFirst workerId w.now expiresAt candidateIds).run w).2 := by
  induction candidateIds with
  | nil => exact lawful_same rfl
  | cons missionId rest ih =>
    rw [MissionService.claimFirst, Py.session, Py.run_transaction_bind]
    rcases hclaim : MissionService.claimTx workerId w.now expiresAt missionId w.db with ⟨_ | _, db⟩
    · obtain rfl := MissionService.claimTx_false hclaim
      exact ih
    · obtain ⟨m, hm, -, hclaimable, rfl⟩ := MissionService.claimTx_true hclaim
      have hedge : Edge m { m with
          status := .running
          leaseOwner := some workerId
          leaseExpiresAt := some expiresAt
          attemptCount := m.attemptCount + 1 } := by
        simp only [MissionService.claimable, Bool.or_eq_true, Bool.and_eq_true,
          decide_eq_true_eq] at hclaimable
        rcases hclaimable with hq | ⟨hr, -⟩
        · exact .inr (by simp [hq, allowedTransitions])
        · exact .inl hr.symm
      show Lawful w ((Py.query _ >>= _ : Py _).run _).2
      rw [Py.run_query_bind]
      have hclaimed : Lawful w (w.commit 0 { w.db with
          missions := w.db.missions.set { m with
            status := .running
            leaseOwner := some workerId
            leaseExpiresAt := some expiresAt
            attemptCount := m.attemptCount + 1 } }) := lawful_set rfl hm rfl hedge
      dsimp only
      split <;> exact hclaimed

lemma lawful_mission (o : MissionOp) : Lawful w (o.perform self w) := by
  cases o with
  | createMission =>
    rw [MissionOp.perform, MissionService.createMission]
    apply lawful_transaction
    intro m db h
    simp only [MissionService.createMissionTx] at h
    split at h
    · cases h
    · next missions hinsert =>
      cases h
      apply lawful_inserted (hinsert.trans _)
      simp
  | createPlan missionId steps toolRegistry =>
    rw [MissionOp.perform, MissionService.createPlan]
    apply lawful_guard
    have hplan : Lawful w
        ((Py.transaction steps.length (MissionService.createPlanTx missionId steps)).run w).2 := by
      apply lawful_transaction
      intro planned db h
      simp only [MissionService.createPlanTx, bind_eq_ok] at h
      obtain ⟨mission, -, _, -, entries, -, h⟩ := h
      split at h
      · cases h
      · cases h
        exact lawful_same rfl
    cases toolRegistry with
    | none => exact hplan
    | some registry => exact lawful_guard hplan
  | nextPendingStep | listPlanSteps | waitingApprovalStep | getMission | listMissions
    | oldestQueued => exact lawful_query
  | planIsComplete missionId =>
    rw [MissionOp.perform, MissionService.planIsComplete, MissionService.listPlanSteps,
      Py.run_query_bind]
    split <;> exact lawful_same rfl
  | claimNextPendingStep missionId =>
    rw [MissionOp.perform, MissionService.claimNextPendingStep, Py.run_query_bind]
    dsimp only
    split
    · exact lawful_same rfl
    · next stepId _ =>
      rw [Py.session, Py.run_transaction_bind]
      rcases hclaim : MissionService.claimStepTx stepId w.db with ⟨_ | _, db⟩
      · obtain rfl := MissionService.claimStepTx_false hclaim
        exact lawful_same rfl
      · obtain ⟨step, -, -, rfl⟩ := MissionService.claimStepTx_true hclaim
        exact lawful_same rfl
  | transitionStep stepId target result errorState approvalReference =>
    rw [MissionOp.perform, MissionService.transitionStep, Py.session]
    apply lawful_transaction
    intro step db h
    obtain ⟨old, -, -, -, rfl⟩ := MissionService.transitionStepTx_eq_ok h
    exact lawful_same rfl
  | claimOldestCodeChange workerId leaseSeconds =>
    rw [MissionOp.perform, MissionService.claimOldestCodeChange]
    apply lawful_guard
    apply lawful_guard
    rw [Py.clock, Py.run_query_bind]
    dsimp only
    rw [Py.run_query_bind]
    exact lawful_claimFirst _ _ _
  | renewCodeChangeLease missionId workerId leaseSeconds =>
    rw [MissionOp.perform, MissionService.renewCodeChangeLease]
    apply lawful_guard
    rw [Py.clock, Py.run_query_bind]
    dsimp only
    apply lawful_transaction
    intro renewed db h
    cases renewed with
    | false =>
      obtain rfl := MissionService.renewTx_false (Except.ok.inj h)
      exact lawful_same rfl
    | true =>
      obtain ⟨m, hm, -, -, -, -, rfl⟩ := MissionService.renewTx_true (Except.ok.inj h)
      exact lawful_set rfl hm rfl (.refl m)
  | releaseCodeChangeLease missionId workerId =>
    rw [MissionOp.perform, MissionService.releaseCodeChangeLease, Py.session]
    apply lawful_transaction
    intro released db h
    cases released with
    | false =>
      obtain rfl := MissionService.releaseTx_false (Except.ok.inj h)
      exact lawful_same rfl
    | true =>
      obtain ⟨m, hm, -, rfl⟩ := MissionService.releaseTx_true (Except.ok.inj h)
      exact lawful_set rfl hm rfl (.refl m)
  | recordResult missionId result =>
    rw [MissionOp.perform, MissionService.recordResult, Py.session]
    apply lawful_transaction
    intro m' db h
    simp only [MissionService.recordResultTx, bind_eq_ok, MissionService.getMissionTx_eq_ok] at h
    obtain ⟨m, hm, h⟩ := h
    cases h
    exact lawful_set rfl hm rfl (.refl m)
  | assignOwner missionId ownerAgent =>
    rw [MissionOp.perform, MissionService.assignOwner, Py.session]
    apply lawful_transaction
    intro m' db h
    simp only [MissionService.assignOwnerTx, bind_eq_ok, MissionService.getMissionTx_eq_ok] at h
    obtain ⟨m, hm, _, -, h⟩ := h
    cases h
    exact lawful_set rfl hm rfl (.refl m)
  | transition missionId target result errorState =>
    rw [MissionOp.perform, MissionService.transition, Py.session]
    apply lawful_transaction
    intro m' db h
    obtain ⟨m, hm, hallowed, rfl, hset, -, -, -⟩ := MissionService.transitionTx_eq_ok h
    exact lawful_set hset hm rfl (.inr hallowed)

end Missions

section Deliveries

variable (self : DeliveryService)

/-- To apply a decision is lawful unless it revives a finished mission. -/
lemma lawful_applyHumanDecision_iff (missionId approvalReference changeRef : String) :
    Lawful w ((DeliveryService.applyHumanDecision missionId approvalReference changeRef).run w).2 ↔
      ¬∃ mission delivery, DeliveryService.Rejected missionId approvalReference changeRef w.now w.db
        mission delivery ∧ Finished mission := by
  rw [DeliveryService.applyHumanDecision, Py.session]
  constructor
  · rintro hlawful ⟨m, delivery, hrejected, hf⟩
    obtain ⟨hm, -⟩ := hrejected.rows
    obtain rfl : m.id = missionId := Table.key_of_get? hm
    rw [Py.run_transaction, DeliveryService.applyHumanDecisionTx_rejected (m := w.moment)
      hrejected] at hlawful
    obtain ⟨m', hm', he⟩ := hlawful m.id m hm
    let running : Mission := { m with status := .running }
    have hget : (w.db.missions.set running).get? m.id = some running := Table.get?_set_self hm
    change (w.db.missions.set running).get? m.id = some m' at hm'
    rw [hget, Option.some.injEq] at hm'
    have hrunning : m'.status = .running := by rw [← hm']
    rw [Finished, ← he.of_finished hf, hrunning] at hf
    cases hf
  · intro hrevives
    apply lawful_transaction
    intro delivery db h
    rcases DeliveryService.applyHumanDecisionTx_eq_ok h with rfl | ⟨m, old, hrejected, rfl, rfl⟩
    · exact lawful_same rfl
    · refine lawful_set rfl hrejected.rows.1 rfl (edge_running fun hf => ?_)
      exact hrevives ⟨m, old, hrejected, hf⟩

/-- Every operation of the delivery service but that one is lawful. -/
lemma lawful_delivery_iff (o : Record.Op) :
    Lawful w ((o.code self).run w).2 ↔ ¬Revives w (.delivery self o) := by
  cases o with
  | applyHumanDecision => exact lawful_applyHumanDecision_iff ..
  | getDelivery missionId =>
    refine iff_of_true ?_ id
    rw [Record.Op.code, DeliveryService.getDelivery]
    exact lawful_query
  | submitDeveloperProposal missionId changeRef summary changedFiles evidence =>
    refine iff_of_true (lawful_guard (lawful_guard (lawful_transaction ?_))) id
    intro delivery db h
    obtain ⟨m, deliveries, hm, hstatus, -, -, rfl⟩ :=
      DeliveryService.submitDeveloperProposalTx_eq_ok h
    refine lawful_set rfl hm rfl (edge_running ?_)
    rcases hstatus with hs | hs <;> simp [Finished, hs, allowedTransitions]
  | recordQaResult missionId changeRef result evidence =>
    refine iff_of_true ?_ id
    rw [Record.Op.code, DeliveryService.recordQaResult]
    apply lawful_transaction
    intro delivery' db h
    obtain ⟨m, delivery, hm, -, -, hcases⟩ := DeliveryService.recordQaResultTx_eq_ok h
    rcases hcases with ⟨-, -, rfl⟩ | ⟨approval, approvals, -, hrunning, -, -, -, -, rfl⟩
    · exact lawful_same rfl
    · exact lawful_set rfl hm rfl (.inr (by simp [hrunning, allowedTransitions]))
  | recordPublication =>
    refine iff_of_true (lawful_guard (lawful_guard (lawful_guard (lawful_transaction ?_)))) id
    intro delivery db h
    obtain ⟨old, -, -, ⟨-, rfl⟩ | ⟨-, -, rfl⟩⟩ := DeliveryService.recordPublicationTx_eq_ok h
    all_goals exact lawful_same rfl
  | recordDeployment =>
    refine iff_of_true (lawful_guard (lawful_guard (lawful_transaction ?_))) id
    intro delivery db h
    obtain ⟨old, -, -, ⟨-, rfl⟩ | ⟨-, -, -, -, rfl⟩⟩ := DeliveryService.recordDeploymentTx_eq_ok h
    all_goals exact lawful_same rfl
  | recordRollback =>
    refine iff_of_true (lawful_guard (lawful_transaction ?_)) id
    intro delivery db h
    obtain ⟨old, -, -, ⟨-, rfl⟩ | ⟨-, -, -, -, -, rfl⟩⟩ := DeliveryService.recordRollbackTx_eq_ok h
    all_goals exact lawful_same rfl

end Deliveries

/-- A step is lawful exactly if it does not revive a finished mission. -/
lemma Step.lawful_iff {o : Move} (hs : Step w o w') : Lawful w w' ↔ ¬Revives w o := by
  cases hs with
  | mission self o => exact iff_of_true (lawful_mission self o) id
  | delivery self o => exact lawful_delivery_iff self o
  | decide requestId decision =>
    refine iff_of_true ?_ id
    rw [ApprovalService.decide, Py.session]
    apply lawful_transaction
    intro request db h
    obtain ⟨-, old, -, -, -, rfl⟩ := ApprovalService.decideTx_eq_ok h
    exact lawful_same rfl
  | elapse hmissions => exact iff_of_true (lawful_same hmissions) id

lemma not_revives_of_unfinished {o : Move} (h : ∀ m ∈ w.db.missions.rows, ¬Finished m) :
    ¬Revives w o := by
  intro hrevives
  unfold Revives at hrevives
  split at hrevives
  · obtain ⟨m, delivery, hrejected, hf⟩ := hrevives
    exact h m (Table.mem_of_get? hrejected.rows.1) hf
  · exact hrevives

/-! ### Every sequence of steps -/

lemma Run.absorbing {w₀ : World} {steps : List (World × Move × World)} (hr : Run w₀ steps w)
    (hlawful : ∀ s ∈ steps, Lawful s.1 s.2.2) (id : String) (hm : w₀.db.missions.get? id = some m)
    (hf : Finished m) : ∃ m', w.db.missions.get? id = some m' ∧ m'.status = m.status := by
  induction hr with
  | nil => exact ⟨m, hm, rfl⟩
  | snoc hr hs ih =>
    obtain ⟨m₁, hm₁, hstatus⟩ := ih fun s hmem => hlawful s (List.mem_append_left _ hmem)
    obtain ⟨m', hm', he⟩ := hlawful _ (List.mem_append_right _ (.head [])) id m₁ hm₁
    refine ⟨m', hm', (he.of_finished ?_).trans hstatus⟩
    rw [Finished, hstatus]
    exact hf

lemma Run.step {w₀ : World} {steps : List (World × Move × World)} (hr : Run w₀ steps w) :
    ∀ s ∈ steps, Step s.1 s.2.1 s.2.2 := by
  induction hr with
  | nil => simp
  | snoc hr hs ih =>
    intro s hmem
    rcases List.mem_append.mp hmem with hmem | hmem
    · exact ih s hmem
    · obtain rfl := List.mem_singleton.mp hmem
      exact hs

/-- A run obeys the law exactly if none of its steps revives a finished mission. -/
theorem obeyed_iff {w₀ : World} {steps : List (World × Move × World)} (hr : Run w₀ steps w) :
    Obeyed w₀ steps w ↔ ∀ s ∈ steps, ¬Revives s.1 s.2.1 := by
  constructor
  · intro hobeyed s hmem
    exact (hr.step s hmem).lawful_iff.mp (hobeyed.edges s hmem)
  · intro hrevives
    have hlawful : ∀ s ∈ steps, Lawful s.1 s.2.2 := by
      intro s hmem
      exact (hr.step s hmem).lawful_iff.mpr (hrevives s hmem)
    exact ⟨hlawful, fun id m hm hf => hr.absorbing hlawful id hm hf⟩

/-! ### A mission that is cancelled before its change is denied -/

def missionService : MissionService := ⟨true⟩

def deliveryService : DeliveryService := ⟨⟨id⟩⟩

/-- The world after a move. -/
def Move.perform (w : World) : Move → World
  | mission self o => o.perform self w
  | delivery self o => ((o.code self).run w).2
  | decide requestId decision => ((ApprovalService.decide requestId decision).run w).2
  | elapse => w

/-- The steps that the moves are, one after the other. -/
def trace (w : World) : List Move → List (World × Move × World)
  | [] => []
  | o :: moves => (w, o, o.perform w) :: trace (o.perform w) moves

def after (w : World) (moves : List Move) : World := moves.foldl Move.perform w

lemma step_perform (w : World) (o : Move) : Step w o (o.perform w) := by
  cases o with
  | mission self o => exact .mission self o
  | delivery self o => exact .delivery self o
  | decide requestId decision => exact .decide requestId decision
  | elapse => exact .elapse rfl

lemma Run.trace {w₀ : World} {steps : List (World × Move × World)} (hr : Run w₀ steps w)
    (moves : List Move) : Run w₀ (steps ++ Lifecycle.trace w moves) (after w moves) := by
  induction moves generalizing w steps with
  | nil => simpa [Lifecycle.trace, after] using hr
  | cons o moves ih =>
    have hrest := ih (hr.snoc (step_perform w o))
    rwa [List.append_assoc, List.singleton_append] at hrest

/-- A code change that passes QA and waits for its approval. -/
def toApproval : List Move :=
  [.mission missionService (.createMission "Code change: ai-hq" "fix" "developer"
      "hq_chat_code_change" .normal .green none none 0),
    .delivery deliveryService (.submitDeveloperProposal "0" "change-1" "fix" [] []),
    .delivery deliveryService (.recordQaResult "0" "change-1" .passed [])]

/-- The approval is denied, and the denial is applied. -/
def denial : List Move :=
  [.decide "1" .denied, .delivery deliveryService (.applyHumanDecision "0" "1" "change-1")]

def cancellation : Move := .mission missionService (.transition "0" .cancelled none none)

def cancelled : World := after {} (toApproval ++ [cancellation])

/-- The mission that has been cancelled runs again. -/
theorem not_obeyed_denied_after_cancellation :
    Run cancelled (trace cancelled denial) (after cancelled denial) ∧
      ¬Obeyed cancelled (trace cancelled denial) (after cancelled denial) := by
  refine ⟨Run.nil.trace denial, fun hobeyed => ?_⟩
  obtain ⟨m', hm', hstatus⟩ := hobeyed.absorbing "0" _ rfl rfl
  cases hm'
  cases hstatus

/-- A denial that is applied in time, before the mission is cancelled, is within the law. -/
theorem obeyed_iff_denied_before_cancellation :
    Obeyed {} (trace {} (toApproval ++ denial ++ [cancellation]))
      (after {} (toApproval ++ denial ++ [cancellation])) := by
  apply (obeyed_iff (Run.nil.trace (toApproval ++ denial ++ [cancellation]))).mpr
  have hunfinished : ((trace {} (toApproval ++ denial ++ [cancellation])).all fun s =>
      s.1.db.missions.rows.all fun m => allowedTransitions m.status ≠ []) = true := rfl
  intro s hmem
  apply not_revives_of_unfinished
  intro m hm
  simpa [Finished] using List.all_eq_true.mp (List.all_eq_true.mp hunfinished s hmem) m hm

end Lifecycle
end AiHq
