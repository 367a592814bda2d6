import AiHq.Missions.Executor

/-!
# The progress of a worker

`run_once` picks the first mission that is under way and has a plan. When that mission cannot
move on, the call returns a result all the same, and the next call picks the same mission again.
-/

namespace AiHq

open Concurrent Relational MissionService MissionExecutor

namespace Progress

/-- A mission that `run_once` may pick. -/
def eligible (db : Database) (mission : Mission) : Bool :=
  (mission.status = .queued || mission.status = .running) && !(planSteps mission.id db).isEmpty

/-- The mission that `run_once` picks. -/
def picked (db : Database) : Option Mission :=
  (orderBy Mission.order db.missions.rows).find? (eligible db)

/-- The first incomplete step of the mission that is picked, if it has one, is PENDING. -/
def HeadMoves (db : Database) : Prop :=
  ∀ mission step, picked db = some mission → firstIncomplete mission.id db = some step →
    step.status = .pending

/-- The status of a mission or of a step is another one. -/
def StatusChanged (db db' : Database) : Prop :=
  (∃ id m m', db.missions.get? id = some m ∧ db'.missions.get? id = some m' ∧
    m'.status ≠ m.status) ∨
  ∃ id s s', db.steps.get? id = some s ∧ db'.steps.get? id = some s' ∧ s'.status ≠ s.status

/-- Whenever `run_once` returns a result, the status of a mission or of a step has changed. -/
def Progresses (runner : AutonomousMissionRunner) (db : Database) : Prop :=
  ∀ w r w', w.db = db → runner.runOnce.run w = (.ok (some r), w') → StatusChanged db w'.db

/-- Calls of `run_once` one after the other, from databases that meet `ok`, each of which returns
a result; in between anything but the missions and the steps may change. -/
inductive Results (runner : AutonomousMissionRunner) (ok : Database → Prop) :
    ℕ → World → World → Prop where
  | zero (w : World) : Results runner ok 0 w w
  | succ {n : ℕ} {w v v' w' : World} {r : MissionExecutionResult} (h : Results runner ok n w v)
      (hmissions : v'.db.missions = v.db.missions) (hsteps : v'.db.steps = v.db.steps)
      (hok : ok v'.db) (hrun : runner.runOnce.run v' = (.ok (some r), w')) :
      Results runner ok (n + 1) w w'

/-! ### What there is left to do -/

/-- The mission may still change its status. -/
def unfinished (mission : Mission) : Bool := !(allowedTransitions mission.status).isEmpty

/-- The steps that are pending and the missions that are not finished. -/
def remaining (db : Database) : ℕ :=
  (db.steps.counted fun s => s.status = .pending).card + (db.missions.counted unfinished).card

def MissionOnward (m m' : Mission) : Prop :=
  m'.id = m.id ∧ (unfinished m' = true → unfinished m = true)

def StepOnward (s s' : MissionStep) : Prop :=
  s'.id = s.id ∧ (s'.status = .pending → s.status = .pending)

/-- No step is pending again and no mission unfinished again. -/
structure Onward (db db' : Database) : Prop where
  missions : db.missions.Evolves MissionOnward db'.missions
  steps : db.steps.Evolves StepOnward db'.steps

lemma MissionOnward.refl (m : Mission) : MissionOnward m m := ⟨rfl, id⟩

lemma StepOnward.refl (s : MissionStep) : StepOnward s s := ⟨rfl, id⟩

lemma Onward.refl (db : Database) : Onward db db := ⟨.refl .refl _, .refl .refl _⟩

lemma Onward.trans {db₁ db₂ db₃ : Database} (h : Onward db₁ db₂) (h' : Onward db₂ db₃) :
    Onward db₁ db₃ := by
  constructor
  · apply h.missions.trans _ h'.missions
    rintro m₁ m₂ m₃ ⟨hid, hm⟩ ⟨hid', hm'⟩
    exact ⟨hid'.trans hid, hm ∘ hm'⟩
  · apply h.steps.trans _ h'.steps
    rintro s₁ s₂ s₃ ⟨hid, hs⟩ ⟨hid', hs'⟩
    exact ⟨hid'.trans hid, hs ∘ hs'⟩

lemma Onward.of_same {db db' : Database} (hmissions : db'.missions = db.missions)
    (hsteps : db'.steps = db.steps) : Onward db db' := by
  constructor
  · rw [hmissions]
    exact .refl .refl _
  · rw [hsteps]
    exact .refl .refl _

lemma remaining_congr {db db' : Database} (hmissions : db'.missions = db.missions)
    (hsteps : db'.steps = db.steps) : remaining db' = remaining db := by
  rw [remaining, remaining, hmissions, hsteps]

section Remaining

variable {db db' : Database}

lemma Onward.pending_subset (h : Onward db db') :
    (db'.steps.counted fun s => s.status = .pending) ⊆
      db.steps.counted fun s => s.status = .pending := by
  apply h.steps.counted_subset
  rintro s s' ⟨-, hs⟩ hp
  simpa using hs (by simpa using hp)

lemma Onward.unfinished_subset (h : Onward db db') :
    db'.missions.counted unfinished ⊆ db.missions.counted unfinished := by
  apply h.missions.counted_subset
  rintro m m' ⟨-, hm⟩
  exact hm

/-- Less is left to do once a pending step has begun. -/
lemma remaining_lt_of_step {id : String} {s s' : MissionStep} (h : Onward db db')
    (hs : db.steps.get? id = some s) (hs' : db'.steps.get? id = some s')
    (hpending : s.status = .pending) (hbegun : s'.status ≠ .pending) :
    remaining db' < remaining db := by
  apply add_lt_add_of_lt_of_le
  · apply Finset.card_lt_card
    refine Finset.ssubset_iff_of_subset h.pending_subset |>.mpr ⟨id, ?_, fun hmem => ?_⟩
    · exact Table.mem_counted.mpr ⟨s, hs, by simpa using hpending⟩
    · obtain ⟨s'', hs'', hp⟩ := Table.mem_counted.mp hmem
      cases hs'.symm.trans hs''
      exact hbegun (by simpa using hp)
  · exact Finset.card_le_card h.unfinished_subset

/-- Less is left to do once a mission has finished. -/
lemma remaining_lt_of_mission {id : String} {m m' : Mission} (h : Onward db db')
    (hm : db.missions.get? id = some m) (hm' : db'.missions.get? id = some m')
    (hopen : unfinished m = true) (hdone : unfinished m' = false) :
    remaining db' < remaining db := by
  apply add_lt_add_of_le_of_lt
  · exact Finset.card_le_card h.pending_subset
  · apply Finset.card_lt_card
    refine Finset.ssubset_iff_of_subset h.unfinished_subset |>.mpr ⟨id, ?_, fun hmem => ?_⟩
    · exact Table.mem_counted.mpr ⟨m, hm, hopen⟩
    · obtain ⟨m'', hm'', hp⟩ := Table.mem_counted.mp hmem
      cases hm'.symm.trans hm''
      rw [hdone] at hp
      exact Bool.false_ne_true hp

end Remaining

/-! ### The worker only goes on -/

/-- An action after which no step is pending again and no mission unfinished again. -/
def Advance (w : World) (_ : Event) (w' : World) : Prop := Onward w.db w'.db

variable {w : World} {α : Type}

lemma every_query {g : Moment → Database → Except PyError α} {ev : Except PyError α → Event} :
    Every Advance (Py.query g ev) :=
  Py.every_query fun w _ => Onward.refl w.db

lemma every_execute (gateway : ToolGateway) (request : ToolRequest) :
    Every Advance (gateway.execute request) :=
  (gateway.every_execute request).mono fun _ _ _ hg => .of_same hg.frame.missions hg.frame.steps

lemma every_transition (missions : MissionService) (missionId : String) (target : MissionStatus)
    (result errorState : Option Dict) :
    Every Advance (missions.transition missionId target result errorState) := by
  rw [MissionService.transition, Py.session]
  apply Py.every_transaction
  · intro w mission' db hf
    obtain ⟨mission, hget, hallowed, rfl, hset, hsteps, -, -⟩ := transitionTx_eq_ok hf
    constructor
    · rw [World.commit_db, hset]
      obtain rfl : mission.id = missionId := Table.key_of_get? hget
      refine Table.evolves_set MissionOnward.refl hget ⟨rfl, fun _ => ?_⟩
      simpa [unfinished] using List.ne_nil_of_mem hallowed
    · rw [World.commit_db, hsteps]
      exact .refl StepOnward.refl _
  · intro w e _
    exact Onward.refl w.db

lemma every_claimNextPendingStep (missionId : String) :
    Every Advance (claimNextPendingStep missionId) := by
  apply every_query.bind
  intro first
  cases first with
  | none => exact .ret _
  | some stepId =>
    refine Every.bind ?_ fun claimed => ?_
    · rw [Py.session]
      apply Py.every_transaction
      · intro w claimed db hf
        cases claimed with
        | false =>
          obtain rfl := claimStepTx_false (Except.ok.inj hf)
          exact Onward.refl _
        | true =>
          obtain ⟨s, hget, hpending, rfl⟩ := claimStepTx_true (Except.ok.inj hf)
          refine ⟨.refl MissionOnward.refl _, ?_⟩
          obtain rfl : s.id = stepId := Table.key_of_get? hget
          refine Table.evolves_set (r := { s with status := .running }) StepOnward.refl hget ?_
          exact ⟨rfl, fun hrunning => by cases hrunning⟩
      · intro w e he
        cases he
    · cases claimed with
      | true => exact every_query
      | false => exact .ret _

lemma every_transitionStep (stepId : String) (target : MissionStepStatus)
    (result errorState : Option Json) (approvalReference : Option String) :
    Every Advance (transitionStep stepId target result errorState approvalReference) := by
  rw [transitionStep, Py.session]
  apply Py.every_transaction
  · intro w s' db hf
    obtain ⟨s, hget, hallowed, rfl, rfl⟩ := transitionStepTx_eq_ok hf
    refine ⟨.refl MissionOnward.refl _, ?_⟩
    obtain rfl : s.id = stepId := Table.key_of_get? hget
    refine Table.evolves_set StepOnward.refl hget ⟨rfl, ?_⟩
    rintro rfl
    cases hs : s.status <;> simp_all [allowedStepTransitions]
  · intro w e _
    exact Onward.refl w.db

variable (self : MissionExecutor)

lemma executorFrame (missionId : String) : ExecutorFrame Advance self missionId where
  silent w := Onward.refl w.db
  request w _ := Onward.refl w.db
  transition := every_transition _ _
  claimStep := every_claimNextPendingStep missionId
  transitionStep stepId target result errorState approvalReference _ :=
    every_transitionStep stepId target result errorState approvalReference
  execute := every_execute _

/-! ### One call -/

variable {mission : Mission} {step : MissionStep}

lemma onward_run {p : Py α} (hp : Every Advance p) (w : World) : Onward w.db (p.run w).2.db :=
  hp.run (F := fun w w' : World => Onward w.db w'.db) (fun _ _ _ h => h) (fun w => .refl w.db)
    (fun _ _ _ h h' => h.trans h') w

lemma run_listPlanSteps (hm : mission ∈ w.db.missions.rows) :
    (listPlanSteps mission.id).run w = (.ok (planSteps mission.id w.db), w) := by
  rw [← Prog.bind_ret (listPlanSteps mission.id), listPlanSteps, Py.run_query_bind]
  have hget : getMissionTx mission.id w.db = .ok mission :=
    getMissionTx_eq_ok.mpr (Table.get?_of_mem hm)
  simp [hget, bind, Except.bind, pure, Except.pure]

lemma run_planIsComplete (hm : mission ∈ w.db.missions.rows) :
    (planIsComplete mission.id).run w = (.ok (!(planSteps mission.id w.db).isEmpty &&
      (planSteps mission.id w.db).all fun s => s.status = .succeeded), w) := by
  rw [planIsComplete, Prog.run_bind, run_listPlanSteps hm]
  rfl

/-- With the first incomplete step not PENDING, nothing is claimed. -/
lemma run_claim_none (hnone : ∀ s, firstIncomplete mission.id w.db = some s →
    s.status ≠ .pending) : (claimNextPendingStep mission.id).run w = (.ok none, w) := by
  rw [claimNextPendingStep, Py.run_query_bind]
  cases hfirst : firstIncomplete mission.id w.db with
  | none => rfl
  | some s =>
    have hget : w.db.steps.get? s.id = some s :=
      Table.get?_of_mem (List.mem_of_mem_filter (mem_of_firstBy hfirst))
    have hclaim : claimStepTx s.id w.db = (false, w.db) := by
      simp [claimStepTx, hget, hnone s hfirst]
    simp only [Option.map_some]
    rw [Py.session, Py.run_transaction_bind]
    simp [hclaim]

/-- A first incomplete step that is PENDING is claimed. -/
lemma run_claim_some (hfirst : firstIncomplete mission.id w.db = some step)
    (hpending : step.status = .pending) : ∃ step' w',
    (claimNextPendingStep mission.id).run w = (.ok (some step'), w') ∧ Onward w.db w'.db ∧
      w'.db.steps.get? step.id = some { step with status := .running } := by
  have hmem := List.mem_of_mem_filter (mem_of_firstBy hfirst)
  have hget : w.db.steps.get? step.id = some step := Table.get?_of_mem hmem
  have hset := Table.get?_set_self (r := { step with status := .running }) hget
  let w' := w.commit 0 { w.db with steps := w.db.steps.set { step with status := .running } }
  have hrun : (claimNextPendingStep mission.id).run w =
      (.ok (some { step with status := .running }), w') := by
    rw [claimNextPendingStep, Py.run_query_bind, hfirst]
    have hclaim : claimStepTx step.id w.db =
        (true, { w.db with steps := w.db.steps.set { step with status := .running } }) := by
      simp [claimStepTx, hget, hpending]
    simp only [Option.map_some]
    rw [Py.session, Py.run_transaction_bind]
    simp only [hclaim, if_true]
    rw [← Prog.bind_ret (Py.query _ _), Py.run_query_bind]
    simp only [World.commit_db]
    exact congrArg (fun r => (Except.ok r, w')) hset
  refine ⟨_, w', hrun, ?_, hset⟩
  have honward := onward_run (every_claimNextPendingStep mission.id) w
  rw [hrun] at honward
  exact honward

/-- An allowed transition is made. -/
lemma run_transition (missions : MissionService) {target : MissionStatus}
    (result errorState : Option Dict) (hm : mission ∈ w.db.missions.rows)
    (hallowed : target ∈ allowedTransitions mission.status) : ∃ mission' w',
    (missions.transition mission.id target result errorState).run w = (.ok mission', w') ∧
      mission' ∈ w'.db.missions.rows ∧ mission'.id = mission.id ∧ mission'.status = target := by
  have hget : w.db.missions.get? mission.id = some mission := Table.get?_of_mem hm
  obtain ⟨⟨mission', db⟩, htx⟩ : ∃ r,
      missions.transitionTx mission.id target result errorState w.db = .ok r := by
    simp [transitionTx, getMissionTx, hget, raiseIf, hallowed, bind, Except.bind, pure,
      Except.pure]
  refine ⟨mission', w.commit 0 db, ?_, ?_⟩
  · rw [MissionService.transition, Py.session, Py.run_transaction, htx]
  · obtain ⟨found, hfound, -, rfl, hset, -⟩ := transitionTx_eq_ok htx
    cases hget.symm.trans hfound
    refine ⟨?_, rfl, rfl⟩
    rw [World.commit_db, hset]
    exact Table.mem_set.mpr (.inl ⟨rfl, mission, hm, rfl⟩)

lemma mem_planSteps {s : MissionStep} {db : Database} :
    s ∈ planSteps mission.id db ↔ s ∈ db.steps.rows ∧ s.missionId = mission.id := by
  simp [planSteps]

/-- With an incomplete step, and nothing claimed, the worker finishes nothing. -/
lemma run_finish_stalled (hm : mission ∈ w.db.missions.rows)
    (hfirst : firstIncomplete mission.id w.db = some step) :
    (self.finish mission).run w =
      (.ok { missionId := mission.id, missionStatus := mission.status }, w) := by
  have hmem := mem_of_firstBy hfirst
  simp only [List.mem_filter, Bool.and_eq_true, decide_eq_true_eq] at hmem
  have hincomplete : ((planSteps mission.id w.db).all fun s => s.status = .succeeded) = false := by
    rw [List.all_eq_false]
    exact ⟨step, mem_planSteps.mpr ⟨hmem.1, hmem.2.1⟩, by simpa using hmem.2.2⟩
  rw [finish, Prog.run_bind, run_planIsComplete hm, hincomplete, Bool.and_false]
  rfl

lemma run_startQueued (hm : mission ∈ w.db.missions.rows)
    (hst : mission.status = .queued ∨ mission.status = .running) : ∃ mission' w',
    (self.startQueued mission).run w = (.ok mission', w') ∧ mission' ∈ w'.db.missions.rows ∧
      mission'.id = mission.id ∧ mission'.status = .running := by
  rcases hst with hst | hst
  · rw [startQueued, if_pos hst]
    exact run_transition self.missions none none hm (by simp [hst, allowedTransitions])
  · refine ⟨mission, w, ?_, hm, rfl, hst⟩
    rw [startQueued, if_neg (by simp [hst])]
    rfl

/-- A complete plan completes its mission. -/
lemma run_finish_complete (hm : mission ∈ w.db.missions.rows)
    (hst : mission.status = .queued ∨ mission.status = .running)
    (hplan : planSteps mission.id w.db ≠ []) (hfirst : firstIncomplete mission.id w.db = none) :
    ∃ m', ((self.finish mission).run w).2.db.missions.get? mission.id = some m' ∧
      m'.status = .completed := by
  have hcomplete : (planSteps mission.id w.db).all fun s => s.status = .succeeded := by
    rw [List.all_eq_true]
    intro s hs
    obtain ⟨hmem, hid⟩ := mem_planSteps.mp hs
    by_contra hnot
    have hnil := firstBy_eq_none.mp hfirst
    have hin : s ∈ w.db.steps.rows.filter fun s =>
        s.missionId = mission.id && s.status ≠ .succeeded := by
      simp only [List.mem_filter, Bool.and_eq_true, decide_eq_true_eq]
      exact ⟨hmem, hid, by simpa using hnot⟩
    rw [hnil] at hin
    exact List.not_mem_nil hin
  have hnonempty : (planSteps mission.id w.db).isEmpty = false := by
    simpa [List.isEmpty_eq_false_iff] using hplan
  obtain ⟨m₁, w₁, hrun₁, hm₁, hid₁, hst₁⟩ := run_startQueued self hm hst
  obtain ⟨m₂, w₂, hrun₂, hm₂, hid₂, hst₂⟩ := run_transition self.missions none none hm₁
    (show .completed ∈ allowedTransitions m₁.status by simp [hst₁, allowedTransitions])
  refine ⟨m₂, ?_, hst₂⟩
  have hrun : (self.finish mission).run w =
      (.ok { missionId := m₂.id, missionStatus := m₂.status }, w₂) := by
    rw [finish, Prog.run_bind, run_planIsComplete hm, hcomplete, hnonempty]
    simp only [Bool.not_false, Bool.and_self, if_true]
    rw [Prog.run_bind, hrun₁]
    simp only [hst₁, if_true]
    rw [Prog.run_bind, hrun₂]
    rfl
  rw [hrun, ← hid₁, ← hid₂]
  exact Table.get?_of_mem hm₂

lemma run_runNext (hm : mission ∈ w.db.missions.rows)
    (hst : mission.status = .queued ∨ mission.status = .running) :
    (self.runNext mission.id).run w = (self.advance mission).run w := by
  have hget : getMissionTx mission.id w.db = .ok mission :=
    getMissionTx_eq_ok.mpr (Table.get?_of_mem hm)
  rw [runNext, getMission, Py.run_query_bind, hget]
  rcases hst with hst | hst <;> simp only [hst]

variable (runner : AutonomousMissionRunner)

lemma run_runFirst {missions : List Mission} (hl : ∀ m ∈ missions, m ∈ w.db.missions.rows) :
    (runner.runFirst missions).run w = match missions.find? (eligible w.db) with
      | none => (.ok none, w)
      | some mission => (some <$> runner.executor.runNext mission.id).run w := by
  induction missions with
  | nil => rfl
  | cons mission missions ih =>
    have ih := ih fun m hm => hl m (.tail _ hm)
    rw [AutonomousMissionRunner.runFirst]
    by_cases hst : mission.status = .queued ∨ mission.status = .running
    · rw [if_pos hst, Prog.run_bind, run_listPlanSteps (hl mission (.head _))]
      by_cases hplan : (planSteps mission.id w.db).isEmpty = true
      · rw [List.find?_cons_of_neg (by simp [eligible, hplan])]
        simp only [hplan, if_true]
        exact ih
      · rw [List.find?_cons_of_pos (by simpa [eligible, hplan] using hst)]
        simp only [hplan]
        rfl
    · rw [if_neg hst, List.find?_cons_of_neg (by simp [eligible, hst])]
      exact ih

lemma run_runOnce : runner.runOnce.run w = match picked w.db with
    | none => (.ok none, w)
    | some mission => (some <$> runner.executor.runNext mission.id).run w := by
  rw [AutonomousMissionRunner.runOnce, listMissions, Py.run_query_bind]
  exact run_runFirst runner fun m hm => mem_orderBy.mp hm

lemma picked_eq_some {db : Database} (hp : picked db = some mission) :
    mission ∈ db.missions.rows ∧ (mission.status = .queued ∨ mission.status = .running) ∧
      planSteps mission.id db ≠ [] := by
  have heligible := List.find?_some hp
  simp only [eligible, Bool.and_eq_true, Bool.or_eq_true, decide_eq_true_eq, Bool.not_eq_true',
    List.isEmpty_eq_false_iff] at heligible
  exact ⟨mem_orderBy.mp (List.mem_of_find?_eq_some hp), heligible.1, heligible.2⟩

/-- A call that picks a mission whose first incomplete step is not PENDING changes nothing, and
returns a result. -/
lemma run_stalled (hp : picked w.db = some mission)
    (hfirst : firstIncomplete mission.id w.db = some step) (hst : step.status ≠ .pending) :
    runner.runOnce.run w =
      (.ok (some { missionId := mission.id, missionStatus := mission.status }), w) := by
  obtain ⟨hm, hstatus, -⟩ := picked_eq_some hp
  have hnone : ∀ s, firstIncomplete mission.id w.db = some s → s.status ≠ .pending := by
    intro s hs
    cases hfirst.symm.trans hs
    exact hst
  have hrun : (runner.executor.runNext mission.id).run w =
      (.ok { missionId := mission.id, missionStatus := mission.status }, w) := by
    rw [run_runNext _ hm hstatus, advance, Prog.run_bind, run_claim_none hnone]
    exact run_finish_stalled _ hm hfirst
  rw [run_runOnce, hp]
  change (runner.executor.runNext mission.id >>= fun r => Prog.ret (some r)).run w = _
  rw [Prog.run_bind, hrun]
  rfl

/-- Otherwise a call that returns a result changes a status, and less is left to do. -/
lemma progress_of_run {r : MissionExecutionResult} {w' : World} (hmoves : HeadMoves w.db)
    (hrun : runner.runOnce.run w = (.ok (some r), w')) :
    StatusChanged w.db w'.db ∧ remaining w'.db < remaining w.db := by
  rw [run_runOnce] at hrun
  cases hp : picked w.db with
  | none =>
    rw [hp] at hrun
    cases hrun
  | some mission =>
    obtain ⟨hm, hstatus, hplan⟩ := picked_eq_some hp
    rw [hp] at hrun
    have hrun' : ((runner.executor.runNext mission.id) >>= fun r => Prog.ret (some r)).run w
      = (.ok (some r), w') := hrun
    rw [Prog.run_bind, run_runNext _ hm hstatus] at hrun'
    have hend : ((runner.executor.advance mission).run w).2 = w' := by
      split at hrun'
      · next s' hs' =>
        rw [hs']
        exact congrArg Prod.snd hrun'
      · cases hrun'
    have hadvance : Every Advance (runner.executor.advance mission) :=
      (executorFrame runner.executor mission.id).advance rfl
    have honward := onward_run hadvance w
    rw [hend] at honward
    have hget : w.db.missions.get? mission.id = some mission := Table.get?_of_mem hm
    cases hfirst : firstIncomplete mission.id w.db with
    | none =>
      obtain ⟨m', hm', hdone⟩ := run_finish_complete runner.executor hm hstatus hplan hfirst
      have hfinish : ((runner.executor.finish mission).run w).2 = w' := by
        rw [← hend, advance, Prog.run_bind, run_claim_none (by simp [hfirst])]
      rw [hfinish] at hm'
      constructor
      · refine .inl ⟨mission.id, mission, m', hget, hm', ?_⟩
        rcases hstatus with hst | hst <;> simp [hst, hdone]
      · apply remaining_lt_of_mission honward hget hm'
        · rcases hstatus with hst | hst <;> simp [unfinished, hst, allowedTransitions]
        · simp [unfinished, hdone, allowedTransitions]
    | some step =>
      have hpending := hmoves mission step hp hfirst
      have hstep : w.db.steps.get? step.id = some step :=
        Table.get?_of_mem (List.mem_of_mem_filter (mem_of_firstBy hfirst))
      obtain ⟨step', w₁, hclaim, -, hset⟩ := run_claim_some hfirst hpending
      have hrest : Onward w₁.db w'.db := by
        rw [← hend, advance, Prog.run_bind, hclaim]
        apply onward_run
        have hframe := executorFrame runner.executor mission.id
        apply (runner.executor.every_startQueued_of hframe.transition rfl).bind_of_yields
          (runner.executor.yields_startQueued rfl)
        intro started hstarted
        exact hframe.perform (hstarted started rfl) step'
      obtain ⟨s', hs', -, hbegun⟩ := hrest.steps.get? hset
      have hnot : s'.status ≠ .pending := fun h => by cases hbegun h
      constructor
      · refine .inr ⟨step.id, step, s', hstep, hs', ?_⟩
        rw [hpending]
        exact hnot
      · exact remaining_lt_of_step honward hstep hs' hpending hnot

/-! ### Every database -/

lemma not_headMoves {db : Database} (h : ¬HeadMoves db) : ∃ mission step,
    picked db = some mission ∧ firstIncomplete mission.id db = some step ∧
      step.status ≠ .pending := by
  simp only [HeadMoves] at h
  push Not at h
  exact h

/-- While the head moves, calls of `run_once` return no more results than there is left to do. -/
lemma results_le {runner : AutonomousMissionRunner} {n : ℕ} {w w' : World}
    (h : Results runner HeadMoves n w w') : n + remaining w'.db ≤ remaining w.db := by
  induction h with
  | zero w => simp
  | @succ n w v v' w' r _ hmissions hsteps hok hrun ih =>
    have hlt := (progress_of_run runner hok hrun).2
    rw [remaining_congr hmissions hsteps] at hlt
    omega

/-- Where the head does not move, every call of `run_once` returns a result and changes nothing. -/
lemma results_stalled (h : ¬HeadMoves w.db) (n : ℕ) :
    Results runner (fun _ => True) n w w := by
  induction n with
  | zero => exact .zero w
  | succ n ih =>
    obtain ⟨mission, step, hp, hfirst, hst⟩ := not_headMoves h
    exact .succ ih rfl rfl trivial (run_stalled runner hp hfirst hst)

/-- Worker progress: a result of `run_once` means that a status has changed exactly when the
mission that it picks, if there is one, has its plan complete or its first incomplete step
PENDING. Where that holds throughout, calls in a row return no more results than there are
pending steps and unfinished missions; where it fails, they return results for ever and change
nothing. -/
theorem progresses_iff (db : Database) :
    (Progresses runner db ↔ HeadMoves db) ∧
    (∀ n w w', w.db = db → Results runner HeadMoves n w w' → n ≤ remaining db) ∧
    (¬HeadMoves db → ∀ n w, w.db = db → Results runner (fun _ => True) n w w) := by
  refine ⟨⟨fun hprogress => ?_, ?_⟩, ?_, ?_⟩
  · by_contra h
    obtain ⟨mission, step, hp, hfirst, hst⟩ := not_headMoves h
    let w : World := { db }
    rcases hprogress w _ w rfl (run_stalled runner hp hfirst hst) with
      ⟨id, m, m', hm, hm', hne⟩ | ⟨id, s, s', hs, hs', hne⟩
    · cases hm.symm.trans hm'
      exact hne rfl
    · cases hs.symm.trans hs'
      exact hne rfl
  · rintro hmoves w r w' rfl hrun
    exact (progress_of_run runner hmoves hrun).1
  · rintro n w w' rfl hresults
    have := results_le hresults
    omega
  · rintro h n w rfl
    exact results_stalled runner h n

/-! ### A mission that stays at the head -/

/-- A worker has died after it had claimed the only step. -/
def abandoned : Database where
  missions := ⟨[
    { id := "report", title := "Report", description := "read the status",
      ownerAgent := "sysadmin", source := "hq_chat", status := .running, createdAt := 0 }],
    by simp⟩
  steps := ⟨[
    { id := "read", missionId := "report", position := 1, description := "read the status",
      toolName := "status.read", toolArguments := some [], status := .running }], by simp⟩

theorem not_progresses_abandoned :
    ¬∀ (runner : AutonomousMissionRunner) (db : Database), Progresses runner db := by
  intro h
  let executor : MissionExecutor :=
    { missions := ⟨true⟩
      gateway := { registry := ⟨[], by decide, by decide⟩, safety := { approvals := ⟨id⟩ } } }
  have hprogress := h { missions := ⟨true⟩, executor } abandoned
  rcases hprogress { db := abandoned } _ { db := abandoned } rfl rfl with
    ⟨id, m, m', hm, hm', hne⟩ | ⟨id, s, s', hs, hs', hne⟩
  · cases hm.symm.trans hm'
    exact hne rfl
  · cases hs.symm.trans hs'
    exact hne rfl

end Progress
end AiHq
