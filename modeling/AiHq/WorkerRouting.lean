import AiHq.CodeChanges.Frame
import AiHq.Library.Pool
import AiHq.Worker

/-!
# Routing between the stages of a worker

An iteration of the worker may interleave with other iterations and with web requests, which queue
code changes and create missions with a plan. Each stage moves the missions that are meant for it;
which ones the department stage moves depends on what it reads as the oldest queued mission.
-/

namespace AiHq

open Concurrent Relational

namespace Routing

/-! ### Kinds of missions -/

def CodeChange (w : World) (m : String) : Prop :=
  ∃ row, w.db.missions.get? m = some row ∧ row.source = "hq_chat_code_change"

def HasPlan (w : World) (m : String) : Prop := ∃ step ∈ w.db.steps.rows, step.missionId = m

/-- A mission that is not for the departments. -/
def Special (w : World) (m : String) : Prop := CodeChange w m ∨ HasPlan w m

/-- The mission has the status that it had. -/
def StatusSame (m : String) (w w' : World) : Prop :=
  (w'.db.missions.get? m).map Mission.status = (w.db.missions.get? m).map Mission.status

/-- Missions keep their source, and plans stay. -/
structure Kept (w w' : World) : Prop where
  source : ∀ m row, w.db.missions.get? m = some row →
    ∃ row', w'.db.missions.get? m = some row' ∧ row'.source = row.source
  plan : ∀ m, HasPlan w m → HasPlan w' m

variable {w w' w'' : World} {e : Event} {m : String} {P Q : String → Prop} {α β : Type}

@[simp] lemma StatusSame.refl (m : String) (w : World) : StatusSame m w w := rfl

lemma Kept.refl (w : World) : Kept w w := ⟨fun _ row h => ⟨row, h, rfl⟩, fun _ h => h⟩

lemma Kept.trans (h : Kept w w') (h' : Kept w' w'') : Kept w w'' := by
  constructor
  · intro m row hrow
    obtain ⟨row', hrow', hsource'⟩ := h.source m row hrow
    obtain ⟨row'', hrow'', hsource''⟩ := h'.source m row' hrow'
    exact ⟨row'', hrow'', hsource''.trans hsource'⟩
  · exact fun m hm => h'.plan m (h.plan m hm)

lemma Kept.codeChange (h : Kept w w') (hm : CodeChange w m) : CodeChange w' m := by
  obtain ⟨row, hrow, hsource⟩ := hm
  obtain ⟨row', hrow', hsource'⟩ := h.source m row hrow
  exact ⟨row', hrow', hsource'.trans hsource⟩

lemma Kept.special (h : Kept w w') (hm : Special w m) : Special w' m :=
  hm.imp h.codeChange (h.plan m)

lemma Kept.of_same (hmissions : w'.db.missions = w.db.missions) (hsteps : w'.db.steps = w.db.steps) :
    Kept w w' := by
  constructor
  · intro m row hrow
    exact ⟨row, by rw [hmissions, hrow], rfl⟩
  · intro m hm
    rwa [HasPlan, hsteps]

/-! ### Actions that move some missions -/

/-- An action that changes the status of no mission but those of `P`. -/
structure Moves (P : String → Prop) (w : World) (e : Event) (w' : World) : Prop where
  kept : Kept w w'
  same : ∀ m, ¬P m → StatusSame m w w'
  event : ∀ o, e ≠ .oldestQueued o

lemma Moves.mono (h : Moves P w e w') (hPQ : ∀ m, P m → Q m) : Moves Q w e w' :=
  ⟨h.kept, fun m hm => h.same m (mt (hPQ m) hm), h.event⟩

lemma Moves.of_same (hmissions : w'.db.missions = w.db.missions) (hsteps : w'.db.steps = w.db.steps)
    (he : ∀ o, e ≠ .oldestQueued o) : Moves P w e w' where
  kept := .of_same hmissions hsteps
  same m _ := by rw [StatusSame, hmissions]
  event := he

lemma Moves.read (he : ∀ o, e ≠ .oldestQueued o) : Moves P w e w := .of_same rfl rfl he

lemma moves_silent (w : World) : Moves P w .silent w := .read (by simp)

/-- Replacing the row of a mission by one of the same source. -/
lemma Moves.of_set {n : ℕ} {row row' : Mission} {db : Database}
    (hset : db.missions = w.db.missions.set row') (hsteps : db.steps = w.db.steps)
    (hget : w.db.missions.get? m = some row) (hid : row'.id = row.id)
    (hsource : row'.source = row.source) (hstatus : P m ∨ row'.status = row.status)
    (he : ∀ o, e ≠ .oldestQueued o) : Moves P w e (w.commit n db) := by
  obtain rfl : row.id = m := Table.key_of_get? hget
  have hself : (w.db.missions.set row').get? row.id = some row' := by
    rw [← hid]
    refine Table.get?_set_self (?_ : _ = some row)
    rw [key_mission, hid, hget]
  refine ⟨⟨fun k x hx => ?_, fun k hk => ?_⟩, fun k hk => ?_, he⟩
  · rw [World.commit_db, hset]
    by_cases hne : k = row.id
    · subst hne
      cases hget.symm.trans hx
      exact ⟨row', hself, hsource⟩
    · refine ⟨x, ?_, rfl⟩
      rw [Table.get?_set_ne (by rwa [key_mission, hid]), hx]
  · rwa [HasPlan, World.commit_db, hsteps]
  · rw [StatusSame, World.commit_db, hset]
    by_cases hne : k = row.id
    · subst hne
      rw [hself, hget]
      exact congrArg some (hstatus.resolve_left hk)
    · rw [Table.get?_set_ne (by rwa [key_mission, hid])]

/-- Replacing a step of a plan. -/
lemma Moves.of_setStep {n : ℕ} {step step' : MissionStep} {db : Database} {k : String}
    (hmissions : db.missions = w.db.missions) (hset : db.steps = w.db.steps.set step')
    (hget : w.db.steps.get? k = some step) (hid : step'.id = step.id)
    (hmission : step'.missionId = step.missionId) (he : ∀ o, e ≠ .oldestQueued o) :
    Moves P w e (w.commit n db) := by
  refine ⟨⟨fun m row hrow => ⟨row, by rwa [World.commit_db, hmissions], rfl⟩, ?_⟩, ?_, he⟩
  · rintro m ⟨s, hs, rfl⟩
    rw [HasPlan, World.commit_db, hset]
    by_cases hkey : s.id = step.id
    · obtain rfl : s = step := Table.eq_of_key_eq hs (Table.mem_of_get? hget) hkey
      exact ⟨step', Table.mem_set.mpr (.inl ⟨rfl, s, hs, hid.symm⟩), hmission⟩
    · exact ⟨s, Table.mem_set.mpr (.inr ⟨hs, by rwa [key_missionStep, key_missionStep, hid]⟩), rfl⟩
  · intro m _
    rw [StatusSame, World.commit_db, hmissions]

/-! ### What the services do -/

lemma every_query {g : Moment → Database → Except PyError α} : Every (Moves P) (Py.query g) :=
  Py.every_query fun w _ => moves_silent w

lemma every_transition (missions : MissionService) (target : MissionStatus)
    (result errorState : Option Dict) :
    Every (Moves (· = m)) (missions.transition m target result errorState) := by
  rw [MissionService.transition, Py.session]
  apply Py.every_transaction
  · intro w row' db hf
    obtain ⟨row, hget, -, rfl, hset, hsteps, -⟩ := MissionService.transitionTx_eq_ok hf
    exact .of_set hset hsteps hget rfl rfl (.inl rfl) (by simp)
  · intro w error _
    exact .read (by simp)

lemma every_assignOwner (missionId ownerAgent : String) :
    Every (Moves P) (MissionService.assignOwner missionId ownerAgent) := by
  rw [MissionService.assignOwner, Py.session]
  apply Py.every_transaction
  · intro w row' db hf
    simp only [MissionService.assignOwnerTx, bind_eq_ok, MissionService.getMissionTx_eq_ok] at hf
    obtain ⟨row, hget, _, -, hf⟩ := hf
    cases hf
    exact .of_set rfl rfl hget rfl rfl (.inr rfl) (by simp)
  · intro w error _
    exact moves_silent w

lemma every_recordResult (missionId : String) (result : Dict) :
    Every (Moves P) (MissionService.recordResult missionId result) := by
  rw [MissionService.recordResult, Py.session]
  apply Py.every_transaction
  · intro w row' db hf
    simp only [MissionService.recordResultTx, bind_eq_ok, MissionService.getMissionTx_eq_ok] at hf
    obtain ⟨row, hget, hf⟩ := hf
    cases hf
    exact .of_set rfl rfl hget rfl rfl (.inr rfl) (by simp)
  · intro w error _
    exact moves_silent w

lemma every_clock : Every (Moves P) Py.clock := Py.every_clock fun _ => .read (by simp)

lemma every_renew (missionId workerId : String) (leaseSeconds : ℤ) :
    Every (Moves P) (MissionService.renewCodeChangeLease missionId workerId leaseSeconds) := by
  apply (Py.every_lift _).bind
  intro _
  apply every_clock.bind
  intro now
  rw [Py.session]
  apply Py.every_transaction
  · intro w renewed db hf
    cases renewed with
    | false =>
      obtain rfl := MissionService.renewTx_false (Except.ok.inj hf)
      exact moves_silent w
    | true =>
      obtain ⟨row, hget, -, -, -, -, rfl⟩ := MissionService.renewTx_true (Except.ok.inj hf)
      exact .of_set rfl rfl hget rfl rfl (.inr rfl) (by simp)
  · intro w error hf
    cases hf

lemma every_release (missionId workerId : String) :
    Every (Moves P) (MissionService.releaseCodeChangeLease missionId workerId) := by
  rw [MissionService.releaseCodeChangeLease, Py.session]
  apply Py.every_transaction
  · intro w released db hf
    cases released with
    | false =>
      obtain rfl := MissionService.releaseTx_false (Except.ok.inj hf)
      exact moves_silent w
    | true =>
      obtain ⟨row, hget, -, rfl⟩ := MissionService.releaseTx_true (Except.ok.inj hf)
      exact .of_set rfl rfl hget rfl rfl (.inr rfl) (by simp)
  · intro w error hf
    cases hf

lemma every_submit (changeRef summary : String) (changedFiles : List Json) (evidence : Dict) :
    Every (Moves (· = m))
      (DeliveryService.submitDeveloperProposal m changeRef summary changedFiles evidence) := by
  apply (Py.every_lift _).bind
  intro _
  apply (Py.every_lift _).bind
  intro _
  rw [Py.session]
  apply Py.every_transaction
  · intro w delivery db hf
    obtain ⟨row, deliveries, hget, -, rfl, -, rfl⟩ := DeliveryService.submitDeveloperProposalTx_eq_ok hf
    exact .of_set rfl rfl hget rfl rfl (.inl rfl) (by simp)
  · intro w error _
    exact moves_silent w

lemma every_recordQaResult (delivery : DeliveryService) (changeRef : String) (result : QAResult)
    (evidence : Dict) :
    Every (Moves (· = m)) (delivery.recordQaResult m changeRef result evidence) := by
  rw [DeliveryService.recordQaResult]
  apply Py.every_transaction
  · intro w delivery' db hf
    obtain ⟨row, old, hget, -, -, hcases⟩ := DeliveryService.recordQaResultTx_eq_ok hf
    rcases hcases with ⟨-, -, rfl⟩ | ⟨approval, approvals, -, -, -, -, -, -, rfl⟩
    · exact .of_same rfl rfl (by simp)
    · exact .of_set rfl rfl hget rfl rfl (.inl rfl) (by simp)
  · intro w error _
    exact moves_silent w

lemma cycleFrame (workerId missionId : String) :
    CycleFrame (Moves (· = missionId)) workerId missionId where
  silent := moves_silent
  transition := every_transition
  recordResult := every_recordResult missionId
  renew := every_renew missionId workerId
  release := every_release missionId workerId
  submit := every_submit
  recordQaResult := every_recordQaResult

lemma every_claimStep (missionId : String) :
    Every (Moves P) (MissionService.claimNextPendingStep missionId) := by
  apply every_query.bind
  intro first
  cases first with
  | none => exact .ret _
  | some stepId =>
    apply Every.bind
    · rw [Py.session]
      apply Py.every_transaction
      · intro w claimed db hf
        cases claimed with
        | false =>
          obtain rfl := MissionService.claimStepTx_false (Except.ok.inj hf)
          exact moves_silent w
        | true =>
          obtain ⟨step, hget, -, rfl⟩ := MissionService.claimStepTx_true (Except.ok.inj hf)
          exact .of_setStep rfl rfl hget rfl rfl (by simp)
      · intro w error hf
        cases hf
    · intro claimed
      split_ifs
      · exact every_query
      · exact .ret _

lemma every_transitionStep (stepId : String) (target : MissionStepStatus)
    (result errorState : Option Json) (approvalReference : Option String) : Every (Moves P)
      (MissionService.transitionStep stepId target result errorState approvalReference) := by
  rw [MissionService.transitionStep, Py.session]
  apply Py.every_transaction
  · intro w step' db hf
    obtain ⟨step, hget, -, rfl, rfl⟩ := MissionService.transitionStepTx_eq_ok hf
    exact .of_setStep rfl rfl hget rfl rfl (by simp)
  · intro w error _
    exact .read (by simp)

lemma moves_of_gateway (hg : ToolGateway.GatewayAction w e w') : Moves P w e w' := by
  refine .of_same hg.frame.missions hg.frame.steps ?_
  rintro o rfl
  exact hg.event

lemma executorFrame (executor : MissionExecutor) (missionId : String) :
    ExecutorFrame (Moves (· = missionId)) executor missionId where
  silent := moves_silent
  request _ _ := .read (by simp)
  transition := every_transition executor.missions
  claimStep := every_claimStep missionId
  transitionStep stepId target result errorState approvalReference _ :=
    every_transitionStep stepId target result errorState approvalReference
  execute request := (executor.gateway.every_execute request).mono fun _ _ _ => moves_of_gateway

/-! ### The departments -/

lemma every_setAgent (agentKey : String) (status : AgentStatus) (currentMissionId : Option String) :
    Every (Moves P) (DepartmentRunner.setAgent agentKey status currentMissionId) := by
  refine Every.bind ?_ fun _ => .ret _
  rw [AgentRegistry.setState, Py.session]
  apply Py.every_transaction
  · intro w agent db hf
    unfold AgentRegistry.setStateTx at hf
    split at hf
    · cases hf
    · cases hf
      exact .of_same rfl rfl (by simp)
  · intro w error _
    exact moves_silent w

lemma every_record (event : LedgerEvent) : Every (Moves P) (OperationsLedger.record event) :=
  (ToolGateway.every_record event).mono fun _ _ _ h => moves_of_gateway h.gateway

lemma every_recordSysAdminResult (missionId : String) (action : RoutedAction)
    (status : MissionStatus) (simulated : Bool) (error : Option String) :
    Every (Moves P) (SysAdminService.recordResult missionId action status simulated error) :=
  (every_record _).bind fun _ => .ret _

lemma every_failure (missionId : String) (action : RoutedAction) (error : String) :
    Every (Moves P) (SysAdminService.failure missionId action error) :=
  (every_recordSysAdminResult ..).bind fun _ => .ret _

lemma every_ask (request : HelperRequest) : Every (Moves P) (SysAdminService.ask request) := by
  apply Every.tryCatch
  · exact (Py.every_ask moves_silent _).bind fun _ => .ret _
  · intro error
    cases error <;> first | exact .ret _ | exact .raise _

lemma every_performAction (missionId : String) (action : RoutedAction) (request : HelperRequest) :
    Every (Moves P) (SysAdminService.perform missionId action request) := by
  apply (every_ask request).bind
  intro answer
  cases answer with
  | inr error => exact every_failure ..
  | inl response =>
    apply (every_record _).bind
    intro _
    split_ifs
    · exact (every_recordSysAdminResult ..).bind fun _ => .ret _
    · exact every_failure ..

lemma every_executeAction (sysadmin : SysAdminService) (missionId : String) (action : RoutedAction) :
    Every (Moves P) (sysadmin.execute missionId action) := by
  unfold SysAdminService.execute
  split
  · exact every_failure ..
  · apply Every.bind ((ToolGateway.every_evaluate ..).mono fun _ _ _ h => moves_of_gateway h.gateway)
    intro safetyResult
    split
    · exact .ret _
    · exact every_failure ..
    · split_ifs
      · exact (every_recordSysAdminResult ..).bind fun _ => .ret _
      · exact every_performAction ..

lemma every_process (departments : DepartmentRunner) (mission : Mission) :
    Every (Moves (· = mission.id)) (departments.process mission) := by
  apply (every_setAgent ..).bind
  intro _
  apply Every.bind
  · apply Py.every_finally
    · unfold DepartmentRunner.route
      split
      · exact .ret _
      · exact (every_transition ..).bind fun _ => .ret _
      · exact .raise _
    · exact every_setAgent ..
  · intro action
    cases action with
    | none => exact .ret _
    | some action =>
      apply (every_assignOwner ..).bind
      intro _
      apply (every_transition ..).bind
      intro _
      apply (every_setAgent ..).bind
      intro _
      refine Every.bind ?_ fun _ => .ret _
      apply Py.every_finally
      · apply (every_executeAction ..).bind
        intro result
        split <;> exact (every_transition ..).bind fun _ => .ret _
      · exact every_setAgent ..

/-! ### What each stage moves -/

/-- A program that keeps missions and plans, and changes the status of those missions only that
`P` holds of. -/
def moving (P : List Event → World → String → Prop) : Contract Event World where
  rely := Kept
  guar h w e w' := Kept w w' ∧ (∀ m, ¬P h w m → StatusSame m w w') ∧
    ∀ o, e = .oldestQueued o → o = (MissionService.oldestQueuedTx w.db).map Mission.id
  rely_refl := Kept.refl
  rely_trans _ _ _ := Kept.trans

/-- A mission that may be moved may be moved from then on. -/
def Persists (T : List Event → World → String → Prop) : Prop :=
  ∀ h w l w' m, T h w m → Kept w w' → T (h ++ l) w' m

variable {T : List Event → World → String → Prop} {p : Py α} {h : List Event}

/-- What moves one mission is safe where this mission may be moved. -/
lemma safe_moves (hT : Persists T) (hp : Every (Moves (· = m)) p) (hm : T h w m) :
    Safe (moving T) p h w fun _ _ _ => True := by
  refine (hp.safe_within (J := fun h w => T h w m) ?_ ?_ hm).mono fun _ _ _ _ => trivial
  · intro h w e w' hm _ _ hmoves
    refine ⟨⟨hmoves.kept, fun k hk => ?_, fun o ho => absurd ho (hmoves.event o)⟩, trivial,
      hT h w [e] w' m hm hmoves.kept⟩
    apply hmoves.same
    rintro rfl
    exact hk hm
  · intro h w w' hm hkept
    simpa using hT h w [] w' m hm hkept

/-- What moves no mission is safe everywhere. -/
lemma safe_none (hp : Every (Moves fun _ => False) p) :
    Safe (moving T) p h w fun _ _ _ => True := by
  refine (hp.safe_within (J := fun _ _ => True) ?_ (fun _ _ _ _ _ => trivial) trivial).mono
    fun _ _ _ _ => trivial
  intro h w e w' _ _ _ hmoves
  exact ⟨⟨hmoves.kept, fun k _ => hmoves.same k id, fun o ho => absurd ho (hmoves.event o)⟩,
    trivial, trivial⟩

/-- A read that finds out something that stays. -/
lemma safe_read_bind {g : Moment → Database → Except PyError α} {k : α → Py β}
    (hk : ∀ v a, g v.moment v.db = .ok a → Kept w v →
      Safe (moving T) (k a) (h ++ [.silent]) v fun _ _ _ => True) :
    Safe (moving T) (Py.query g >>= k) h w fun _ _ _ => True := by
  have hguar (v : World) : (moving T).guar h v .silent v :=
    ⟨.refl v, fun _ _ => rfl, fun o ho => by cases ho⟩
  apply Py.safe_query_bind
  · intro v a hR _ ha _
    exact ⟨hguar v, hk v a ha hR⟩
  · intro v error _ _ _ _
    exact ⟨hguar v, Safe.raise fun _ _ _ => trivial⟩

/-- The department stage moves the missions that it has read as the oldest queued ones. -/
def departmentMoves (h : List Event) (_ : World) (m : String) : Prop :=
  .oldestQueued (some m) ∈ h

/-- The autonomous stage moves the missions that have a plan. -/
def autonomousMoves (_ : List Event) (w : World) (m : String) : Prop := HasPlan w m

/-- The code-change stage moves the code changes. -/
def codeChangeMoves (_ : List Event) (w : World) (m : String) : Prop := CodeChange w m

lemma persists_department : Persists departmentMoves :=
  fun _ _ _ _ _ hm _ => List.mem_append_left _ hm

lemma persists_autonomous : Persists autonomousMoves := fun _ _ _ _ m hm hkept => hkept.plan m hm

lemma persists_codeChange : Persists codeChangeMoves := fun _ _ _ _ _ hm hkept =>
  hkept.codeChange hm

lemma safe_department (departments : DepartmentRunner) :
    Safe (moving departmentMoves) departments.runOnce [] w fun _ _ _ => True := by
  apply Py.safe_query_bind
  · intro v mission _ _ hread _
    cases hread
    refine ⟨⟨.refl v, fun _ _ => rfl, fun o ho => (Event.oldestQueued.inj ho).symm⟩, ?_⟩
    cases hmission : MissionService.oldestQueuedTx v.db with
    | none => exact Safe.ret fun _ _ _ => trivial
    | some mission =>
      apply safe_moves persists_department (every_process departments mission)
      simp [departmentMoves]
  · intro v error _ _ hread _
    cases hread

lemma safe_autonomous (runner : AutonomousMissionRunner) :
    Safe (moving autonomousMoves) runner.runOnce [] w fun _ _ _ => True := by
  apply safe_read_bind
  intro v missions _ _
  have hfirst (missions : List Mission) (h : List Event) (w : World) :
      Safe (moving autonomousMoves) (runner.runFirst missions) h w fun _ _ _ => True := by
    induction missions generalizing h w with
    | nil => exact Safe.ret fun _ _ _ => trivial
    | cons mission missions ih =>
      unfold AutonomousMissionRunner.runFirst
      split_ifs
      · apply safe_read_bind
        intro v steps hsteps _
        split_ifs with hempty
        · exact ih _ _
        · -- the mission has a plan from here on
          have hplan : HasPlan v mission.id := by
            simp only [bind_eq_ok] at hsteps
            obtain ⟨_, -, hsteps⟩ := hsteps
            cases hsteps
            obtain ⟨step, hstep⟩ := List.exists_mem_of_ne_nil _ (by simpa using hempty)
            have hmem := List.mem_filter.mp (mem_orderBy.mp hstep)
            exact ⟨step, hmem.1, by simpa using hmem.2⟩
          apply safe_moves persists_autonomous _ hplan
          exact (executorFrame runner.executor mission.id).runNext.bind fun _ => .ret _
      · exact ih _ _
  exact hfirst missions _ v

/-- A claim moves the code change that it takes. -/
lemma every_claimFirst (workerId : String) (now expiresAt : Datetime) (candidateIds : List String) :
    Every (fun w e w' => Moves (CodeChange w) w e w')
      (MissionService.claimFirst workerId now expiresAt candidateIds) := by
  induction candidateIds with
  | nil => exact .ret _
  | cons k candidateIds ih =>
    apply Every.bind
    · rw [Py.session]
      apply Py.every_transaction
      · intro w claimed db hf
        cases claimed with
        | false =>
          obtain rfl := MissionService.claimTx_false (Except.ok.inj hf)
          exact moves_silent w
        | true =>
          obtain ⟨row, hget, hcode, -, rfl⟩ := MissionService.claimTx_true (Except.ok.inj hf)
          refine .of_set rfl rfl hget rfl rfl (.inl ⟨row, hget, ?_⟩) (by simp)
          simp only [MissionService.isCodeChange, Bool.and_eq_true, decide_eq_true_eq] at hcode
          exact hcode.1
      · intro w error hf
        cases hf
    · intro claimed
      cases claimed with
      | false => exact ih
      | true =>
        rw [if_pos rfl]
        apply Every.bind (Py.every_query fun w _ => moves_silent w)
        intro mission
        cases mission with
        | none => exact .raise _
        | some mission => exact .ret _

lemma every_claim (workerId : String) (leaseSeconds : ℤ) :
    Every (fun w e w' => Moves (CodeChange w) w e w')
      (MissionService.claimOldestCodeChange workerId leaseSeconds) := by
  apply (Py.every_lift _).bind
  intro _
  apply (Py.every_lift _).bind
  intro _
  apply (Py.every_clock fun w => Moves.read (by simp)).bind
  intro now
  apply Every.bind (Py.every_query fun w _ => moves_silent w)
  exact every_claimFirst _ now _

lemma safe_processQueuedCandidate (service : CodeChangeService) (missionId workerId : String)
    (leaseSeconds : ℤ) :
    Safe (moving codeChangeMoves)
      (service.processQueuedCandidate missionId (some workerId) leaseSeconds) h w
      fun _ _ _ => True := by
  apply safe_read_bind
  intro v mission hread _
  apply Py.safe_lift_bind
  · intro repository hrepository
    have hcode : CodeChange v mission.id := by
      have hget := MissionService.getMissionTx_eq_ok.mp hread
      obtain rfl : mission.id = missionId := Table.key_of_get? hget
      obtain ⟨_, hcheck, -⟩ := bind_eq_ok.mp hrepository
      have hqueued := raiseIf_eq_ok.mp hcheck
      push Not at hqueued
      exact ⟨mission, hget, hqueued.2⟩
    have hframe := cycleFrame workerId mission.id
    refine safe_moves persists_codeChange ?_ hcode
    split_ifs
    · exact hframe.resultForMission service repository
    · apply Every.bind
      · unfold CodeChangeService.start
        split
        · exact .raise _
        · exact (every_transition ..).bind fun _ => .ret _
        · exact .ret _
        · next heq =>
          apply (Py.every_lift _).bind
          intro _
          exact (every_renew ..).bind fun _ => Py.every_lift _
        · exact .raise _
      · intro _
        apply Every.tryCatch
        · exact hframe.prepare service repository leaseSeconds
        · exact hframe.failPreparation service
  · intro error _
    exact Safe.raise fun _ _ _ => trivial

lemma safe_codeChange (runner : CodeChangeQueueRunner) :
    Safe (moving codeChangeMoves) runner.runOnce [] w fun _ _ _ => True := by
  apply Safe.bind (P := fun _ _ _ => True)
  · refine ((every_claim _ _).safe (F := fun _ _ => True) (N := fun _ => True) ?_
      (fun _ _ _ => trivial) (fun _ _ _ _ _ => trivial) [] w).mono fun _ _ _ _ => trivial
    intro h w e w' _ _ hmoves
    exact ⟨⟨hmoves.kept, hmoves.same, fun o ho => absurd ho (hmoves.event o)⟩, trivial, trivial,
      trivial⟩
  · intro h claimed w' _
    cases claimed with
    | none => exact Safe.ret fun _ _ _ => trivial
    | some mission =>
      apply (safe_processQueuedCandidate runner.service mission.id _ _).bind
      · intro _ _ _ _
        exact Safe.ret fun _ _ _ => trivial
      · intro _ _ _ _
        trivial
  · intro _ _ _ _
    trivial

/-! ### Iterations and web requests -/

/-- An iteration of a worker, or a web request: `queue_candidate`, or the creation of an
operational mission, whose plan follows in a transaction of its own. -/
inductive Call where
  | iteration (worker : Worker)
  | queueCandidate (service : CodeChangeService) (repository text : Json)
  | operational (missions : MissionService) (title text : String) (steps : List PlanEntry)
      (registry : ToolRegistry)

abbrev WorkerPool := Pool Call PyError Event World Unit
abbrev WorkerLabel := Label Call Event

/-- What the chat controller does for an operational request. -/
def createOperational (missions : MissionService) (title text : String) (steps : List PlanEntry)
    (registry : ToolRegistry) : Py Unit := do
  let mission ← missions.createMission title text "sysadmin" "sysadmin_chat" .normal .green
    (some [.str text]) (some [])
  let _ ← MissionService.createPlan mission.id steps (some registry)
  return ()

/-- Whatever else happens, missions keep their source and plans stay. -/
def system : System Call PyError Event World Unit where
  code
    | .iteration worker => (fun _ => ()) <$> worker.runIteration
    | .queueCandidate service repository text =>
      (fun _ => ()) <$> service.queueCandidate repository text
    | .operational missions title text steps registry =>
      createOperational missions title text steps registry
  env := Kept

/-! ### The property -/

/-- A stage that changes the status of a mission is the one that is meant for it. The department
stage is meant for missions that are no code changes and have no plan, then or later. -/
def WellRouted (stage : Stage) (w w' later : World) : Prop :=
  ∀ m, ¬StatusSame m w w' → match stage with
    | .recovery => False
    | .autonomous => HasPlan w m
    | .codeChange => CodeChange w m
    | .department => ¬Special w m ∧ ¬Special later m

/-- In all runs whose steps meet `ok`, which may depend on the missions that are special in the
end, every action of a stage is well routed. -/
def Routed (ok : Set String → WorkerPool → WorkerLabel → WorkerPool → Prop) : Prop :=
  ∀ {w₀ : World} {p q r : WorkerPool} {t : ℕ} {c : Call} {stage : Stage} {e : Event},
    let K := {m | Special r.state m}
    Pool.Run system (ok K) (Pool.init w₀) p →
    Pool.Step system p (.act t c (.staged stage e)) q → ok K p (.act t c (.staged stage e)) q →
    Pool.Run system (ok K) q r → WellRouted stage p.state q.state r.state

/-- When the department stage reads the oldest queued mission, there is none, or it is none
of `K`. -/
def OldestIsPlain (K : Set String) (p : WorkerPool) (l : WorkerLabel) (_ : WorkerPool) : Prop :=
  ∀ t c o, l = .act t c (.staged .department (.oldestQueued o)) →
    ∀ mission, MissionService.oldestQueuedTx p.state.db = some mission → mission.id ∉ K

/-! ### An iteration -/

/-- The mission is one that the stage may move. -/
def Meant : Stage → List Event → World → String → Prop
  | .recovery, _, _, _ => False
  | .autonomous, _, w, m => HasPlan w m
  | .codeChange, _, w, m => CodeChange w m
  | .department, h, _, m => .staged .department (.oldestQueued (some m)) ∈ h

/-- A call keeps missions and plans, and in a stage it moves only missions that the stage may
move. -/
def contract : Contract Event World where
  rely := Kept
  guar h w e w' := Kept w w' ∧ ∀ stage e', e = .staged stage e' →
    (∀ m, ¬Meant stage h w m → StatusSame m w w') ∧
    ∀ o, e' = .oldestQueued o → o = (MissionService.oldestQueuedTx w.db).map Mission.id
  rely_refl := Kept.refl
  rely_trans _ _ _ := Kept.trans

lemma safe_staged (stage : Stage)
    (hp : Safe (moving T) p [] w fun _ _ _ => True)
    (hT : ∀ h₀ h w m, T h w m → Meant stage (h₀ ++ h.map (.staged stage)) w m) :
    Safe contract (staged stage p) h w fun _ _ _ => True := by
  have hnil : h = h ++ ([] : List Event).map (.staged stage) := by simp
  rw [hnil]
  refine (hp.mapEvent (D := contract) (fun _ _ => id) (fun _ => Iff.rfl) (fun _ _ _ _ _ => trivial) ?_).mono
    fun _ _ _ _ => trivial
  rintro l w e w' ⟨hkept, hsame, hread⟩
  refine ⟨hkept, fun stage' e' he => ?_⟩
  cases he
  exact ⟨fun m hm => hsame m fun hT' => hm (hT _ _ _ _ hT'), hread⟩

lemma safe_ask {reply : World → Except PyError α} (stage : Stage) :
    Safe contract (staged stage (Py.ask reply)) h w fun _ _ _ => True := by
  refine safe_staged (T := fun _ _ _ => False) stage ?_ fun _ _ _ _ => False.elim
  exact safe_none (Py.every_ask moves_silent _)

lemma safe_runIteration (worker : Worker) :
    Safe contract worker.runIteration [] w fun _ _ _ => True := by
  have hbind {γ δ : Type} {p : Py γ} {k : γ → Py δ} {h : List Event} {w : World}
      (hp : Safe contract p h w fun _ _ _ => True)
      (hk : ∀ a h w, Safe contract (k a) h w fun _ _ _ => True) :
      Safe contract (p >>= k) h w fun _ _ _ => True :=
    hp.bind (fun h a w _ => hk a h w) fun _ _ _ _ => trivial
  have hret {γ : Type} (a : γ) (h : List Event) (w : World) :
      Safe contract (.ret a : Py γ) h w fun _ _ _ => True := Safe.ret fun _ _ _ => trivial
  apply hbind
  · unfold Worker.recoveryStage
    split_ifs
    · exact safe_ask _
    · exact hret _ _ _
  · intro recoveryWorked h w
    apply hbind
    · exact safe_staged .autonomous (safe_autonomous _) fun _ _ _ _ hm => hm
    · intro result h w
      cases result with
      | some _ =>
        dsimp only
        split_ifs
        · exact hbind (safe_ask _) fun _ => hret _
        · exact hret _ _ _
      | none =>
        apply hbind
        · unfold Worker.codeChangeStage
          split
          · exact hret _ _ _
          · apply Safe.tryCatch (P := fun _ _ _ => True)
            · refine hbind ?_ fun _ => hret _
              exact safe_staged .codeChange (safe_codeChange _) fun _ _ _ _ hm => hm
            · intro _ _ _ _
              trivial
            · intro _ _ _ _
              exact hret _ _ _
        · intro worked h w
          split_ifs
          · exact hret _ _ _
          · apply hbind
            · apply safe_staged .department (safe_department _)
              intro h₀ h w m hm
              exact List.mem_append_right _ (List.mem_map_of_mem hm)
            · intro departmentWorked h w
              split_ifs <;> exact hret _ _ _

/-! ### Web requests -/

/-- An action outside the stages that keeps missions and plans. -/
def Adds (w : World) (e : Event) (w' : World) : Prop :=
  Kept w w' ∧ ∀ stage e', e ≠ .staged stage e'

lemma adds_silent (w : World) : Adds w .silent w := ⟨.refl w, by simp⟩

lemma every_createMission (missions : MissionService) (title description ownerAgent source : String)
    (priority : MissionPriority) (risk : MissionRisk) (objectives dependencies : Option (List Json))
    (xpReward : ℤ) :
    Every Adds (missions.createMission title description ownerAgent source priority risk objectives
      dependencies xpReward) := by
  apply Py.every_transaction
  · intro w mission db hf
    unfold MissionService.createMissionTx at hf
    dsimp only at hf
    split at hf
    · cases hf
    · next table hinsert =>
      obtain ⟨rfl, rfl⟩ := Prod.mk.inj (Except.ok.inj hf)
      refine ⟨⟨fun m row hrow => ⟨row, ?_, rfl⟩, fun m hm => ?_⟩, by simp⟩
      · rw [World.commit_db, MissionService.addToLedger_missions]
        exact Table.get?_insert?_of_some hinsert hrow
      · rwa [HasPlan, World.commit_db, MissionService.addToLedger_steps]
  · intro w error _
    exact adds_silent w

lemma every_createPlan (missionId : String) (steps : List PlanEntry)
    (registry : Option ToolRegistry) :
    Every Adds (MissionService.createPlan missionId steps registry) := by
  have hinsert : Every Adds
      (Py.transaction steps.length (MissionService.createPlanTx missionId steps)) := by
    apply Py.every_transaction
    · intro w planned db hf
      simp only [MissionService.createPlanTx, bind_eq_ok] at hf
      obtain ⟨_, -, _, -, rows, -, hf⟩ := hf
      split at hf
      · cases hf
      · next table htable =>
        obtain ⟨rfl, rfl⟩ := Prod.mk.inj (Except.ok.inj hf)
        refine ⟨⟨fun m row hrow => ⟨row, hrow, rfl⟩, ?_⟩, by simp⟩
        rintro m ⟨step, hstep, hm⟩
        refine ⟨step, ?_, hm⟩
        rw [World.commit_db, Table.insertAll?_rows htable]
        exact List.mem_append_left _ hstep
    · intro w error _
      exact adds_silent w
  apply (Py.every_lift _).bind
  intro _
  split
  · exact hinsert
  · exact (Py.every_lift _).bind fun _ => hinsert

lemma safe_adds (hp : Every Adds p) : Safe contract p h w fun _ _ _ => True := by
  refine (hp.safe (F := fun _ _ => True) (N := fun _ => True) ?_ (fun _ _ _ => trivial)
    (fun _ _ _ _ _ => trivial) h w).mono fun _ _ _ _ => trivial
  intro h w e w' _ _ hadds
  exact ⟨⟨hadds.1, fun stage e' he => absurd he (hadds.2 stage e')⟩, trivial, trivial, trivial⟩

lemma safe_code (c : Call) : Safe contract (system.code c) [] w fun _ _ _ => True := by
  cases c with
  | iteration worker =>
    apply (safe_runIteration worker).bind
    · exact fun _ _ _ _ => Safe.ret fun _ _ _ => trivial
    · exact fun _ _ _ _ => trivial
  | queueCandidate service repository text =>
    apply safe_adds
    refine Every.bind ?_ fun _ => .ret _
    apply (Py.every_lift _).bind
    intro _
    apply (Py.every_lift _).bind
    intro _
    exact (every_createMission ..).bind fun _ => .ret _
  | operational missions title text steps registry =>
    apply safe_adds
    apply (every_createMission ..).bind
    intro mission
    exact (every_createPlan ..).bind fun _ => .ret _

/-! ### Runs -/

variable {p q r : WorkerPool} {l : WorkerLabel} {K : Set String}

lemma compatible : Pool.Compatible system (fun _ _ _ => True) (fun _ => True) (fun _ => contract)
    fun _ _ _ _ => True where
  inv_iff _ _ := Iff.rfl
  env _ _ _ hkept _ := ⟨trivial, fun _ => hkept⟩
  act _ _ _ _ _ _ _ _ hg := hg.1
  cond _ _ _ _ _ _ _ _ _ := trivial
  code _ c _ _ _ := safe_code c

/-- Every call is under way as its code runs. -/
abbrev UnderWay (p : WorkerPool) : Prop :=
  Pool.AllSafe (fun _ => True) (fun _ => contract) (fun _ _ _ _ => True) p

/-- The department stages have read none of the missions `K`. -/
def NoneRead (K : Set String) (p : WorkerPool) : Prop :=
  ∀ m ∈ K, ¬p.Shown (.staged .department (.oldestQueued (some m)))

lemma UnderWay.step (hp : UnderWay p) (hs : Pool.Step system p l q) : UnderWay q :=
  Pool.AllSafe.step compatible hp hs trivial

lemma UnderWay.kept (hp : UnderWay p) (hs : Pool.Step system p l q) :
    Kept p.state q.state := by
  cases l with
  | spawn c =>
    cases hs
    exact .refl _
  | env =>
    cases hs with
    | env hkept => exact hkept
  | act t c e =>
    obtain ⟨h, prog, -, -, hg⟩ := Pool.AllSafe.guar compatible hp hs trivial
    exact hg.1

lemma NoneRead.step (hp : UnderWay p) (hnone : NoneRead K p) (hs : Pool.Step system p l q)
    (hok : OldestIsPlain K p l q) : NoneRead K q := by
  intro m hm hshown
  rcases hs.shown.mp hshown with hshown | ⟨t, c, rfl⟩
  · exact hnone m hm hshown
  · obtain ⟨h, prog, -, -, hg⟩ := Pool.AllSafe.guar compatible hp hs trivial
    have hread := (hg.2 _ _ rfl).2 (some m) rfl
    obtain ⟨mission, hmission, rfl⟩ := Option.map_eq_some_iff.mp hread.symm
    exact hok t c _ rfl mission hmission hm

lemma related (hp : UnderWay p) (hr : Pool.Run system (fun p l q => OldestIsPlain K p l q) p q) :
    UnderWay q ∧ Kept p.state q.state := by
  refine hr.invariant (P := fun q => UnderWay q ∧ Kept p.state q.state) ⟨hp, .refl _⟩ ?_
  intro q l r hq hs _
  exact ⟨hq.1.step hs, hq.2.trans (hq.1.kept hs)⟩

/-- Missions are routed to the stages that are meant for them in the runs in which the department
stage never reads a code change, or a mission with a plan, as the oldest queued mission. -/
theorem routed {w₀ : World} {p q r : WorkerPool} {t : ℕ} {c : Call} {stage : Stage} {e : Event}
    (hr : Pool.Run system (OldestIsPlain {m | Special r.state m}) (Pool.init w₀) p)
    (hs : Pool.Step system p (.act t c (.staged stage e)) q)
    (hok : OldestIsPlain {m | Special r.state m} p (.act t c (.staged stage e)) q)
    (hr' : Pool.Run system (OldestIsPlain {m | Special r.state m}) q r) :
    WellRouted stage p.state q.state r.state := by
  intro m hmoved
  let K := {m | Special r.state m}
  have hinit : UnderWay (Pool.init w₀) ∧ NoneRead K (Pool.init w₀) :=
    ⟨Pool.allSafe_init trivial, fun m _ => Pool.not_shown_init _ _⟩
  have hp := hr.invariant (P := fun p => UnderWay p ∧ NoneRead K p) hinit
    fun p l q hp hs hok => ⟨hp.1.step hs, hp.2.step hp.1 hs hok⟩
  obtain ⟨h, prog, ht, -, hg⟩ := Pool.AllSafe.guar compatible hp.1 hs trivial
  have hmeant : Meant stage h p.state m := by
    by_contra hnot
    exact hmoved ((hg.2 stage e rfl).1 m hnot)
  cases stage with
  | recovery => exact hmeant
  | autonomous => exact hmeant
  | codeChange => exact hmeant
  | department =>
    have hnot : ¬Special r.state m := by
      intro hm
      exact hp.2 m hm ⟨_, List.mem_of_getElem? ht, hmeant⟩
    have hkept := (hp.1.kept hs).trans (related (hp.1.step hs) hr').2
    exact ⟨fun hm => hnot (hkept.special hm), hnot⟩

/-! ### A worker between two code changes -/

/-- A worker whose router supports none of the titles below. -/
def worker : Worker where
  autonomousRunner := ⟨⟨true⟩, ⟨⟨true⟩, ⟨.empty, { approvals := ⟨id⟩ }⟩⟩⟩
  departmentRunner :=
    { missions := ⟨true⟩
      sysadmin := { safety := { approvals := ⟨id⟩ }, allowLists := ⟨[], [], [], [], []⟩ }
      router := fun _ => .error (.unsupportedMission "unsupported mission") }
  codeChangeRunner := some
    { service :=
        { missions := ⟨true⟩
          delivery := ⟨⟨id⟩⟩
          runner := { delivery := ⟨⟨id⟩⟩, candidateVerifier := true, workspaceService := true }
          repositoryDescriptions := [] }
      workerId := "worker" }

def codeChange (id : String) (createdAt : Datetime) : Mission where
  id := id
  title := "Code change: ai-hq"
  description := "fix"
  ownerAgent := "developer"
  source := "hq_chat_code_change"
  objectives := [.str "ai-hq", .str "fix"]
  createdAt := createdAt

def agents : Table Agent := ⟨[{ key := "commander" }, { key := "sysadmin" }], by decide⟩

/-- Two code changes are in the queue, and the developer raises. -/
def twoCodeChanges : World where
  db :=
    { missions := ⟨[codeChange "first" 0, codeChange "second" 1], by decide⟩
      agents := agents }
  work := fun
    | .developerExecute => .error (.other "APITimeoutError")
    | _ => .ok .null

/-- A mission of no other runner is in the queue. -/
def onePlain : World where
  db :=
    { missions := ⟨[
        { id := "plain", title := "Fix it", description := "", ownerAgent := "commander",
          source := "api", createdAt := 0 }], by decide⟩
      agents := agents }

/-- The iteration of the worker after `n` actions. -/
def iterating (w : World) (n : ℕ) : WorkerPool :=
  Pool.play system (Pool.init w) (.spawn (.iteration worker) :: List.replicate n (.act 0))

/-- A test for steps at which the department stage reads no mission but the plain one. -/
def readsPlain (p : WorkerPool) : WorkerLabel → Bool
  | .act _ _ (.staged .department (.oldestQueued _)) =>
    (MissionService.oldestQueuedTx p.state.db).all fun mission => mission.id = "plain"
  | _ => true

lemma oldestIsPlain_of_readsPlain (h : readsPlain p l = true) (hK : "plain" ∉ K) :
    OldestIsPlain K p l q := by
  rintro t c o rfl mission hmission
  have hid : mission.id = "plain" := by simpa [readsPlain, hmission] using h
  rwa [hid]

/-- The worker fails one code change because another one could not be prepared. -/
theorem not_routed_failed_preparation : ¬Routed fun _ _ _ _ => True := by
  intro hrouted
  have hr : Pool.Run system (fun _ _ _ => True) (Pool.init twoCodeChanges)
      (iterating twoCodeChanges 21) := by
    apply Pool.run_play
    apply Pool.admissible_of_env (fun _ _ _ => trivial)
    intro f hf
    simp at hf
  have hs : Pool.Step system (iterating twoCodeChanges 21)
      (.act 0 (.iteration worker) (.staged .department (.missionTransition "second" .failed)))
      (Pool.move system (iterating twoCodeChanges 21) (.act 0)) := Pool.step_move rfl
  have hmoved : ¬StatusSame "second" (iterating twoCodeChanges 21).state
      (Pool.move system (iterating twoCodeChanges 21) (.act 0)).state := by
    intro hsame
    have hstatus : some MissionStatus.failed = some MissionStatus.queued := hsame
    cases hstatus
  exact (hrouted hr hs trivial (.refl _) "second" hmoved).1 (.inl ⟨_, rfl, rfl⟩)

lemma not_special_plain :
    ¬Special (Pool.move system (iterating onePlain 6) (.act 0)).state "plain" := by
  rintro (⟨row, hrow, hsource⟩ | ⟨step, hstep, -⟩)
  · have hget : (Pool.move system (iterating onePlain 6) (.act 0)).state.db.missions.get? "plain" =
        some { id := "plain", title := "Fix it", description := "", ownerAgent := "commander",
               source := "api", status := .failed,
               errorState := some (.obj [("code", .str "unsupported_mission")]), createdAt := 0 } :=
      rfl
    cases hget.symm.trans hrow
    exact absurd hsource (by decide)
  · have hnil : (Pool.move system (iterating onePlain 6) (.act 0)).state.db.steps.rows = [] := rfl
    rw [hnil] at hstep
    cases hstep

/-- The department stage fails a plain mission that it does not support. -/
theorem routed_plain :
    WellRouted .department (iterating onePlain 6).state
      (Pool.move system (iterating onePlain 6) (.act 0)).state
      (Pool.move system (iterating onePlain 6) (.act 0)).state := by
  let K := {m | Special (Pool.move system (iterating onePlain 6) (.act 0)).state m}
  have hreads {p q : WorkerPool} {l : WorkerLabel} (h : readsPlain p l = true) :
      OldestIsPlain K p l q := oldestIsPlain_of_readsPlain h not_special_plain
  have hr : Pool.Run system (OldestIsPlain K) (Pool.init onePlain) (iterating onePlain 6) := by
    apply Pool.run_play
    refine Pool.admissible_of_admits (T := readsPlain) (fun p l q h => hreads h) (fun f hf => ?_) rfl
    simp at hf
  have hs : Pool.Step system (iterating onePlain 6)
      (.act 0 (.iteration worker) (.staged .department (.missionTransition "plain" .failed)))
      (Pool.move system (iterating onePlain 6) (.act 0)) := Pool.step_move rfl
  exact routed hr hs (hreads rfl) (.refl _)

end Routing
end AiHq
