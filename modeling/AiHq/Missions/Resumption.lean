import AiHq.Library.Pool
import AiHq.Missions.Executor

/-!
# Resumptions that race

`resume_approved` moves its step and its mission on by transitions that read a row and write it
with separate statements, between which other sessions may commit.
-/

namespace AiHq

open Concurrent Relational

/-! ### Transitions, statement by statement -/

namespace Stepwise

/-- What `transition_step` checks in the row that it has read. -/
def checkStep (stepId : String) (target : MissionStepStatus) (db : Database) :
    Except PyError Unit :=
  match db.steps.get? stepId with
  | none => .error (.keyError ("mission step not found: " ++ stepId))
  | some step =>
    raiseIf (target ∉ allowedStepTransitions step.status)
      (.valueError ("invalid mission step transition: " ++ step.status.value ++ " -> "
        ++ target.value))

/-- The UPDATE of the columns that `transition_step` has set; it raises where the row is gone. -/
def commitStep (stepId : String) (target : MissionStepStatus) (result errorState : Option Json)
    (approvalReference : Option String) (db : Database) : Except PyError (Unit × Database) :=
  match db.steps.get? stepId with
  | none => .error (.other "StaleDataError")
  | some step =>
    let step :=
      { step with
        status := target
        result := result.or step.result
        errorState := errorState.or step.errorState
        approvalReference := approvalReference.or step.approvalReference }
    .ok ((), { db with steps := db.steps.set step })

def refreshStep (stepId : String) (db : Database) : Except PyError MissionStep :=
  match db.steps.get? stepId with
  | none => .error (.other "InvalidRequestError")
  | some step => .ok step

def transitionStep (stepId : String) (target : MissionStepStatus)
    (result errorState : Option Json := none) (approvalReference : Option String := none) :
    Py MissionStep := do
  .query fun _ => checkStep stepId target
  .session (fun _ => commitStep stepId target result errorState approvalReference) fun
    | .ok _ => .stepAt stepId target
    | .error _ => .stepRefused stepId target
  .query fun _ => refreshStep stepId

/-- The row that `transition` has read, if the move is allowed from there. -/
def readMission (missionId : String) (target : MissionStatus) (db : Database) :
    Except PyError Mission := do
  let mission ← MissionService.getMissionTx missionId db
  raiseIf (target ∉ allowedTransitions mission.status)
    (.valueError ("invalid mission transition: " ++ mission.status.value ++ " -> " ++ target.value))
  return mission

/-- The UPDATE of the columns that `transition` has set, and the ledger event about the row that it
has read. -/
def commitMission (self : MissionService) (mission : Mission) (target : MissionStatus)
    (result errorState : Option Dict) (db : Database) : Except PyError (Unit × Database) :=
  match db.missions.get? mission.id with
  | none => .error (.other "StaleDataError")
  | some current =>
    let current :=
      { current with
        status := target
        result := (result.map .obj).or current.result
        errorState := (errorState.map .obj).or current.errorState }
    .ok ((), self.addToLedger
      { missionId := mission.id, agentKey := some mission.ownerAgent,
        eventType := .missionStatusChanged,
        summary := "Mission status changed to " ++ target.value,
        eventData := [("from", .str mission.status.value), ("to", .str target.value)] }
      { db with missions := db.missions.set current })

def refreshMission (missionId : String) (db : Database) : Except PyError Mission :=
  match db.missions.get? missionId with
  | none => .error (.other "InvalidRequestError")
  | some mission => .ok mission

def transition (self : MissionService) (missionId : String) (target : MissionStatus)
    (result errorState : Option Dict := none) : Py Mission := do
  let mission ← .query fun _ => readMission missionId target
  .session (fun _ => commitMission self mission target result errorState)
    fun _ => .missionTransition missionId target
  .query fun _ => refreshMission missionId

/-! ### `resume_approved`, statement by statement -/

open MissionExecutor

def settle (self : MissionExecutor) (mission : Mission) (step : MissionStep)
    (outcome : ToolOutcome) : Py MissionExecutionResult := do
  match outcome.state with
  | .waitingApproval =>
    let step ← transitionStep step.id .waitingApproval none none outcome.approvalRequestId
    let mission ← transition self.missions mission.id .waitingApproval
    return settled mission step outcome
  | .executed | .simulated =>
    let result := outcome.result.getD .null
    let step ← transitionStep step.id .succeeded
      (some (if result.truthy then result else .obj []))
    if ← MissionService.planIsComplete mission.id then
      let mission ← transition self.missions mission.id .completed
        (some [("plan_status", .str "completed")])
      return settled mission step outcome
    else return settled mission step outcome
  | .blocked | .failed =>
    let step ← transitionStep step.id .failed none (some (.obj (failure outcome)))
    let mission ← transition self.missions mission.id .failed none
      (some (("step_id", .str step.id) :: failure outcome))
    return settled mission step outcome

def perform (self : MissionExecutor) (mission : Mission) (step : MissionStep) :
    Py MissionExecutionResult := do
  let request ← requestFor mission step
  .show_ (.gatewayRequest step.id)
  let outcome ← self.gateway.execute request
  settle self mission step outcome

def resumeApproved (self : MissionExecutor) (missionId : String) : Py MissionExecutionResult := do
  let mission ← MissionService.getMission missionId
  raiseIf (mission.status ≠ .waitingApproval)
    (.valueError "mission is not waiting for approval")
  match ← MissionService.waitingApprovalStep mission.id with
  | none => throw (.valueError "mission has no step waiting for approval")
  | some step =>
    let step ← transitionStep step.id .running
    let mission ← transition self.missions mission.id .running
    perform self mission step

/-! ### With nothing in between -/

variable {w : World}

/-- With nothing in between, the statements make up the transaction. -/
lemma run_transitionStep (stepId : String) (target : MissionStepStatus)
    (result errorState : Option Json) (approvalReference : Option String) (w : World) :
    (transitionStep stepId target result errorState approvalReference).run w =
      (MissionService.transitionStep stepId target result errorState approvalReference).run w := by
  rw [MissionService.transitionStep, transitionStep]
  simp only [Py.run_query_bind, Py.session, Py.run_transaction_bind, Py.run_query,
    Py.run_transaction]
  cases hget : w.db.steps.get? stepId with
  | none => simp [MissionService.transitionStepTx, checkStep, hget]
  | some step =>
    by_cases htarget : target ∈ allowedStepTransitions step.status
    · obtain rfl : step.id = stepId := Table.key_of_get? hget
      have hself (step' : MissionStep) (hid : step'.id = step.id) :
          (w.db.steps.set step').get? step.id = some step' := by
        rw [← hid] at hget ⊢
        exact Table.get?_set_self hget
      simp [MissionService.transitionStepTx, checkStep, commitStep, refreshStep, hget, raiseIf,
        htarget, hself, bind, Except.bind, pure, Except.pure]
    · simp [MissionService.transitionStepTx, checkStep, hget, raiseIf, htarget, bind, Except.bind]

lemma run_transition (self : MissionService) (missionId : String) (target : MissionStatus)
    (result errorState : Option Dict) (w : World) :
    (transition self missionId target result errorState).run w =
      (self.transition missionId target result errorState).run w := by
  rw [MissionService.transition, transition]
  simp only [Py.run_query_bind, Py.session, Py.run_transaction_bind, Py.run_query,
    Py.run_transaction]
  cases hget : w.db.missions.get? missionId with
  | none =>
    have hread : MissionService.getMissionTx missionId w.db =
        .error (.keyError ("mission not found: " ++ missionId)) := by
      rw [MissionService.getMissionTx, hget]
    simp [MissionService.transitionTx, readMission, hread, bind, Except.bind]
  | some mission =>
    have hread := MissionService.getMissionTx_eq_ok.mpr hget
    by_cases htarget : target ∈ allowedTransitions mission.status
    · obtain rfl : mission.id = missionId := Table.key_of_get? hget
      have hself (mission' : Mission) (hid : mission'.id = mission.id) :
          (w.db.missions.set mission').get? mission.id = some mission' := by
        rw [← hid] at hget ⊢
        exact Table.get?_set_self hget
      simp [MissionService.transitionTx, readMission, commitMission, refreshMission, hread, hget,
        raiseIf, htarget, hself, bind, Except.bind, pure, Except.pure]
    · simp [MissionService.transitionTx, readMission, hread, raiseIf, htarget, bind, Except.bind]

lemma run_settle (self : MissionExecutor) (mission : Mission) (step : MissionStep)
    (outcome : ToolOutcome) (w : World) :
    (settle self mission step outcome).run w = (self.settle mission step outcome).run w := by
  have hcomplete (step : MissionStep) (w : World) :
      (do
        if ← MissionService.planIsComplete mission.id then
          let mission ← transition self.missions mission.id .completed
            (some [("plan_status", .str "completed")])
          return settled mission step outcome
        else return settled mission step outcome : Py MissionExecutionResult).run w =
      (do
        if ← MissionService.planIsComplete mission.id then
          let mission ← self.missions.transition mission.id .completed
            (some [("plan_status", .str "completed")])
          return settled mission step outcome
        else return settled mission step outcome : Py MissionExecutionResult).run w := by
    apply Prog.run_bind_congr rfl
    intro complete w
    split_ifs
    · exact Prog.run_bind_congr (run_transition ..) fun _ _ => rfl
    · rfl
  have hend (step : MissionStep) (target : MissionStatus) (errorState : Option Dict) (w : World) :
      (do
        let mission ← transition self.missions mission.id target none errorState
        return settled mission step outcome : Py MissionExecutionResult).run w =
      (do
        let mission ← self.missions.transition mission.id target none errorState
        return settled mission step outcome : Py MissionExecutionResult).run w :=
    Prog.run_bind_congr (run_transition ..) fun _ _ => rfl
  unfold settle MissionExecutor.settle
  cases outcome.state with
  | waitingApproval =>
    exact Prog.run_bind_congr (run_transitionStep ..) fun step w => hend step .waitingApproval none w
  | executed => exact Prog.run_bind_congr (run_transitionStep ..) hcomplete
  | simulated => exact Prog.run_bind_congr (run_transitionStep ..) hcomplete
  | blocked | failed =>
    exact Prog.run_bind_congr (run_transitionStep ..) fun step w => hend step .failed _ w

/-- A resumption with nothing in between is the one of the executor. -/
theorem run_resumeApproved (self : MissionExecutor) (missionId : String) (w : World) :
    (resumeApproved self missionId).run w = (self.resumeApproved missionId).run w := by
  apply Prog.run_bind_congr rfl
  intro mission w
  apply Prog.run_bind_congr rfl
  intro _ w
  apply Prog.run_bind_congr rfl
  intro waiting w
  cases waiting with
  | none => rfl
  | some step =>
    apply Prog.run_bind_congr (run_transitionStep ..)
    intro step w
    apply Prog.run_bind_congr (run_transition ..)
    intro mission w
    apply Prog.run_bind_congr rfl
    intro request w
    apply Prog.run_bind_congr rfl
    intro _ w
    apply Prog.run_bind_congr rfl
    intro outcome w
    exact run_settle self mission step outcome w

end Stepwise

/-! ### Races -/

namespace Resumption

open Stepwise

/-- A call of `resume_approved`. -/
structure Call where
  executor : MissionExecutor
  missionId : String

abbrev ResumptionPool := Pool Call PyError Event World MissionExecutionResult
abbrev ResumptionLabel := Label Call Event

/-- Anything may happen besides. -/
def system : System Call PyError Event World MissionExecutionResult where
  code c := resumeApproved c.executor c.missionId
  env _ _ := True

/-! ### The property -/

def isWaiting (s : String) (w : World) : Bool :=
  (w.db.steps.get? s).any fun step => step.status = .waitingApproval

/-- The step enters WAITING_APPROVAL. -/
def Enters (s : String) (p : ResumptionPool) (_ : ResumptionLabel) (q : ResumptionPool) : Prop :=
  isWaiting s p.state = false ∧ isWaiting s q.state = true

/-- A request for the step is sent to the gateway. -/
def isRequest (s : String) : Event → Bool
  | .gatewayRequest s' => s' = s
  | _ => false

/-- In all runs whose steps meet `ok`: no more requests are sent for a step by resumptions than it
has been in WAITING_APPROVAL, from the start or by entering it. -/
def AtMostOnce (ok : ResumptionPool → ResumptionLabel → ResumptionPool → Prop) : Prop :=
  ∀ {w₀ : World} {p : ResumptionPool} {s : String} {n : ℕ},
    Pool.RunCount system ok (Enters s) (Pool.init w₀) p n →
    p.count (isRequest s) ≤ (if isWaiting s w₀ then 1 else 0) + n

/-- A step is moved on to RUNNING only where it is in WAITING_APPROVAL still. -/
def OnWaiting (p : ResumptionPool) (l : ResumptionLabel) (_ : ResumptionPool) : Prop :=
  ∀ t c s, l = .act t c (.stepAt s .running) → isWaiting s p.state = true

/-! ### One call -/

def isResume (s : String) : Event → Bool
  | .stepAt s' .running => s' = s
  | _ => false

variable {w w' : World} {e : Event} {h : List Event} {s : String} {α : Type} {prog : Py α}

lemma isRequest_iff : isRequest s e = true ↔ e = .gatewayRequest s := by
  cases e <;> simp [isRequest]

lemma isResume_iff : isResume s e = true ↔ e = .stepAt s .running := by
  unfold isResume
  split <;> simp_all

/-- The event is neither a request nor a resumption. -/
def Quiet (e : Event) : Prop := ∀ s, isRequest s e = false ∧ isResume s e = false

/-- A call sends a request for a step only after it has moved the step on to RUNNING. -/
structure Guarantee (h : List Event) (e : Event) (w' : World) : Prop where
  requested : ∀ s, e = .gatewayRequest s → h.countP (isRequest s) < h.countP (isResume s)
  resumed : ∀ s, e = .stepAt s .running → isWaiting s w' = false

def contract : Contract Event World where
  rely _ _ := True
  guar h _ e w' := Guarantee h e w'
  rely_refl _ := trivial
  rely_trans _ _ _ _ _ := trivial

lemma Quiet.guar (he : Quiet e) : Guarantee h e w' := by
  constructor
  · rintro s rfl
    have hreq := (he s).1
    simp [isRequest] at hreq
  · rintro s rfl
    have hres := (he s).2
    simp [isResume] at hres

lemma quiet_silent : Quiet .silent := fun _ => ⟨rfl, rfl⟩

/-- What is quiet may run at any time, and its events are quiet. -/
lemma safe_quiet (hp : Every (fun _ e _ => Quiet e) prog) (h : List Event) (w : World) :
    Safe contract prog h w fun h' _ _ => ∃ l, h' = h ++ l ∧ ∀ e ∈ l, Quiet e := by
  refine (hp.safe (F := fun _ _ => True) (N := Quiet) ?_ (fun _ _ _ => trivial)
    (fun _ _ _ _ _ => trivial) h w).mono fun _ _ _ hP => hP.2
  intro h w e w' _ _ he
  exact ⟨he.guar, trivial, trivial, he⟩

lemma every_query {g : Moment → Database → Except PyError α} :
    Every (fun _ e _ => Quiet e) (Py.query g) :=
  Py.every_query fun _ _ => quiet_silent

lemma every_transition (self : MissionService) (missionId : String) (target : MissionStatus)
    (result errorState : Option Dict) :
    Every (fun _ e _ => Quiet e) (transition self missionId target result errorState) := by
  have hquiet : Quiet (.missionTransition missionId target) := fun _ => ⟨rfl, rfl⟩
  apply every_query.bind
  intro mission
  apply Every.bind
  · rw [Py.session]
    exact Py.every_transaction (fun _ _ _ _ => hquiet) fun _ _ _ => hquiet
  · exact fun _ => every_query

lemma every_transitionStep (stepId : String) (target : MissionStepStatus)
    (result errorState : Option Json) (approvalReference : Option String)
    (htarget : target ≠ .running) : Every (fun _ e _ => Quiet e)
      (transitionStep stepId target result errorState approvalReference) := by
  apply every_query.bind
  intro _
  apply Every.bind
  · rw [Py.session]
    apply Py.every_transaction
    · intro _ _ _ _ s
      refine ⟨rfl, ?_⟩
      cases target <;> first | rfl | exact absurd rfl htarget
    · exact fun _ _ _ _ => ⟨rfl, rfl⟩
  · exact fun _ => every_query

lemma every_settle (self : MissionExecutor) (mission : Mission) (step : MissionStep)
    (outcome : ToolOutcome) : Every (fun _ e _ => Quiet e) (settle self mission step outcome) := by
  have hcomplete (step : MissionStep) : Every (fun _ e _ => Quiet e) (do
      if ← MissionService.planIsComplete mission.id then
        let mission ← transition self.missions mission.id .completed
          (some [("plan_status", .str "completed")])
        return MissionExecutor.settled mission step outcome
      else return MissionExecutor.settled mission step outcome) := by
    refine Every.bind (every_query.bind fun _ => .ret _) fun complete => ?_
    split_ifs
    · exact (every_transition ..).bind fun _ => .ret _
    · exact .ret _
  unfold settle
  split
  · exact (every_transitionStep _ _ _ _ _ (by decide)).bind fun _ =>
      (every_transition ..).bind fun _ => .ret _
  · exact (every_transitionStep _ _ _ _ _ (by decide)).bind hcomplete
  · exact (every_transitionStep _ _ _ _ _ (by decide)).bind hcomplete
  · exact (every_transitionStep _ _ _ _ _ (by decide)).bind fun _ =>
      (every_transition ..).bind fun _ => .ret _
  · exact (every_transitionStep _ _ _ _ _ (by decide)).bind fun _ =>
      (every_transition ..).bind fun _ => .ret _

lemma every_execute (gateway : ToolGateway) (request : ToolRequest) :
    Every (fun _ e _ => Quiet e) (gateway.execute request) := by
  refine (gateway.every_execute request).mono fun w e w' haction s => ?_
  have he := haction.event
  cases e <;> simp_all [ToolGateway.OfGateway, ToolGateway.OfSafety, isRequest, isResume]

/-- The call has moved the step on and has sent no request so far. -/
structure Resumed (s : String) (h : List Event) : Prop where
  resumed : .stepAt s .running ∈ h
  noRequest : ∀ e ∈ h, isRequest s e = false

lemma Resumed.append {l : List Event} (hs : Resumed s h) (hl : ∀ e ∈ l, Quiet e) :
    Resumed s (h ++ l) where
  resumed := List.mem_append_left _ hs.resumed
  noRequest e he := (List.mem_append.mp he).elim (hs.noRequest e) fun he => (hl e he s).1

lemma Resumed.lt (hs : Resumed s h) : h.countP (isRequest s) < h.countP (isResume s) := by
  have hzero : h.countP (isRequest s) = 0 :=
    List.countP_eq_zero.mpr fun e he => by rw [hs.noRequest e he]; simp
  rw [hzero]
  exact List.countP_pos_iff.mpr ⟨_, hs.resumed, by simp [isResume]⟩

lemma safe_perform (self : MissionExecutor) (mission : Mission) {step : MissionStep}
    (hs : Resumed step.id h) :
    Safe contract (perform self mission step) h w fun _ _ _ => True := by
  apply Py.safe_lift_bind
  · intro request _
    apply Py.safe_query_bind
    · intro _ _ _ _ _ _
      constructor
      · refine ⟨?_, by simp⟩
        rintro s ⟨⟩
        exact hs.lt
      · apply (safe_quiet (every_execute self.gateway request) _ _).bind
        · exact fun _ outcome _ _ =>
            (safe_quiet (every_settle self mission step outcome) _ _).mono fun _ _ _ _ => trivial
        · exact fun _ _ _ _ => trivial
    · intro _ _ _ _ hf _
      cases hf
  · intro error _
    exact Safe.raise fun _ _ _ => trivial

/-- A transition to RUNNING that returns has moved its step on. -/
lemma safe_transitionStep (hh : ∀ e ∈ h, Quiet e) :
    Safe contract (transitionStep s .running) h w
      fun h' r _ => ∀ step, r = .ok step → Resumed step.id h' := by
  have hraise {h : List Event} {w : World} (error : PyError) :
      Safe contract (.raise error : Py MissionStep) h w
        fun h' r _ => ∀ step, r = .ok step → Resumed step.id h' := by
    apply Safe.raise
    rintro _ _ _ _ ⟨⟩
  have hsilent {h : List Event} {w : World} : contract.guar h w .silent w := quiet_silent.guar
  apply Py.safe_query_bind
  · intro _ _ _ _ _ _
    refine ⟨hsilent, ?_⟩
    rw [Py.session]
    apply Py.safe_transaction_bind
    · intro v _ db _ _ hf _
      unfold commitStep at hf
      split at hf
      · cases hf
      · next row hget =>
        obtain rfl : db = _ := (Prod.mk.inj (Except.ok.inj hf)).2.symm
        obtain rfl : row.id = s := Table.key_of_get? hget
        refine ⟨⟨by simp, ?_⟩, trivial, ?_⟩
        · rintro s ⟨⟩
          simp only [isWaiting, World.commit_db]
          rw [Option.any_eq_false]
          intro step hstep
          rcases Table.get?_set hstep with ⟨rfl, -⟩ | ⟨-, hne⟩
          · rfl
          · exact absurd rfl hne
        · apply Py.safe_query
          · intro u step _ _ hfound _
            refine ⟨hsilent, ?_⟩
            rintro _ _ _ _ ⟨⟩
            have hfound' : u.db.steps.get? row.id = some step := by
              unfold refreshStep at hfound
              split at hfound
              · cases hfound
              · next step' hstep' =>
                cases hfound
                exact hstep'
            obtain hid : step.id = row.id := Table.key_of_get? hfound'
            constructor
            · rw [hid]
              simp
            · intro e he
              rcases List.mem_append.mp he with he | he
              · rcases List.mem_append.mp he with he | he
                · rcases List.mem_append.mp he with he | he
                  · exact (hh e he _).1
                  · obtain rfl := List.mem_singleton.mp he
                    rfl
                · obtain rfl := List.mem_singleton.mp he
                  rfl
              · obtain rfl := List.mem_singleton.mp he
                rfl
          · intro _ _ _ _ _ _
            refine ⟨hsilent, ?_⟩
            rintro _ _ _ _ ⟨⟩
    · intro _ _ _ _ _ _
      exact ⟨⟨by simp, by simp⟩, hraise _⟩
  · intro _ _ _ _ _ _
    exact ⟨hsilent, hraise _⟩

lemma safe_code (c : Call) : Safe contract (system.code c) [] w fun _ _ _ => True := by
  have hsilent {h : List Event} {w : World} : contract.guar h w .silent w := quiet_silent.guar
  have hraise {h : List Event} {w : World} (error : PyError) :
      Safe contract (.raise error : Py MissionExecutionResult) h w fun _ _ _ => True :=
    Safe.raise fun _ _ _ => trivial
  apply Py.safe_query_bind
  · intro _ mission _ _ _ _
    refine ⟨hsilent, ?_⟩
    apply Py.safe_lift_bind
    · intro _ _
      apply Py.safe_query_bind
      · intro _ waiting _ _ _ _
        refine ⟨hsilent, ?_⟩
        cases waiting with
        | none => exact hraise _
        | some step =>
          apply (safe_transitionStep fun e he => ?_).bind
          · intro h step w hstep
            apply (safe_quiet (every_transition ..) _ _).bind
            · rintro _ mission _ ⟨l, rfl, hl⟩
              exact safe_perform c.executor mission ((hstep step rfl).append hl)
            · exact fun _ _ _ _ => trivial
          · exact fun _ _ _ _ => trivial
          · have hsilent : e = .silent := by simpa using he
            rw [hsilent]
            exact quiet_silent
      · intro _ _ _ _ _ _
        exact ⟨hsilent, hraise _⟩
    · intro error _
      exact hraise error
  · intro _ _ _ _ _ _
    exact ⟨hsilent, hraise _⟩

/-! ### Runs -/

variable {ok : ResumptionPool → ResumptionLabel → ResumptionPool → Prop} {p q : ResumptionPool}
  {l : ResumptionLabel}

lemma compatible : Pool.Compatible system (fun _ _ _ => True) (fun _ => True) (fun _ => contract)
    fun _ _ _ _ => True where
  inv_iff _ _ := Iff.rfl
  env _ _ _ _ _ := ⟨trivial, fun _ => trivial⟩
  act _ _ _ _ _ _ _ _ _ := trivial
  cond _ _ _ _ _ _ _ _ _ := trivial
  code _ c _ _ _ := safe_code c

/-- Every call is under way as its code runs. -/
abbrev UnderWay (p : ResumptionPool) : Prop :=
  Pool.AllSafe (fun _ => True) (fun _ => contract) (fun _ _ _ _ => True) p

lemma underWay (hr : Pool.Run system ok (Pool.init w) p) : UnderWay p :=
  (hr.mono fun _ _ _ _ => trivial).safe compatible (Pool.allSafe_init trivial)

/-- Requests are no more than resumptions, call by call. -/
lemma requests_le (hr : Pool.Run system ok (Pool.init w) p) :
    ∀ th ∈ p.threads, th.history.countP (isRequest s) ≤ th.history.countP (isResume s) := by
  refine Pool.Run.safe_invariant (J := fun p => ∀ th ∈ p.threads,
    th.history.countP (isRequest s) ≤ th.history.countP (isResume s)) compatible
    (hr.mono fun _ _ _ _ => trivial) (Pool.allSafe_init trivial) (by simp [Pool.init]) ?_ ?_ ?_
  · intro p c q hp hs _ th hth
    cases hs
    rcases List.mem_append.mp hth with hth | hth
    · exact hp th hth
    · obtain rfl := List.mem_singleton.mp hth
      simp
  · intro p q hp hs _
    cases hs
    exact hp
  · intro p t c e q h prog hp _ hs ht _ hg th hth
    cases hs with
    | @act _ _ _ ev upd next ht' =>
      cases ht.symm.trans ht'
      rcases List.mem_or_eq_of_mem_set hth with hth | rfl
      · exact hp th hth
      · have hle : h.countP (isRequest s) ≤ h.countP (isResume s) :=
          hp _ (List.mem_of_getElem? ht)
        rw [List.countP_append, List.countP_append, List.countP_singleton, List.countP_singleton]
        by_cases he : isRequest s (ev p.state) = true
        · have hlt := hg.requested s (isRequest_iff.mp he)
          simp only [he, if_true]
          omega
        · rw [if_neg he]
          omega

/-- Resumptions, and the one that may come. -/
def resumptions (s : String) (p : ResumptionPool) : ℕ :=
  p.count (isResume s) + if isWaiting s p.state then 1 else 0

/-- Only the transition of the step to RUNNING counts as a resumption, and it takes the step out of
WAITING_APPROVAL. -/
lemma count_isResume (hp : UnderWay p) (hs : Pool.Step system p l q) (hok : OnWaiting p l q) :
    q.count (isResume s) = p.count (isResume s) ∨
      q.count (isResume s) = p.count (isResume s) + 1 ∧ isWaiting s p.state = true ∧
        isWaiting s q.state = false := by
  have hcount := hs.count (P := isResume s)
  cases l with
  | spawn c => exact .inl hcount
  | env => exact .inl hcount
  | act t c e =>
    by_cases he : isResume s e = true
    · simp only [he, if_true] at hcount
      have hstep := isResume_iff.mp he
      subst hstep
      obtain ⟨h, prog, -, -, hg⟩ := hp.guar compatible hs trivial
      exact .inr ⟨hcount, hok t c s rfl, hg.resumed s rfl⟩
    · simp only [he] at hcount
      exact .inl hcount

/-- A step is sent to the gateway at most once for each time that it has been in WAITING_APPROVAL,
in the runs in which steps are moved on only where they are in WAITING_APPROVAL still. -/
theorem atMostOnce {w₀ : World} {p : ResumptionPool} {s : String} {n : ℕ}
    (hr : Pool.RunCount system OnWaiting (Enters s) (Pool.init w₀) p n) :
    p.count (isRequest s) ≤ (if isWaiting s w₀ then 1 else 0) + n := by
  have hrequests : p.count (isRequest s) ≤ p.count (isResume s) :=
    Pool.count_le_count (requests_le hr.run)
  have hresumptions : resumptions s p ≤ resumptions s (Pool.init w₀) + n := by
    apply hr.le
    · intro q l r hq hs hok hstays
      rcases count_isResume (s := s) (underWay hq) hs hok with hsame | ⟨hmore, hbefore, hafter⟩
      · rw [resumptions, resumptions, hsame]
        simp only [Enters, not_and, Bool.not_eq_true] at hstays
        cases hwaiting : isWaiting s q.state with
        | true =>
          apply Nat.add_le_add_left
          rw [if_pos rfl]
          split_ifs <;> simp
        | false => rw [hstays hwaiting]
      · rw [resumptions, resumptions, hmore, hbefore, hafter]
        rfl
    · rintro q l r hq hs hok ⟨hbefore, hafter⟩
      rcases count_isResume (s := s) (underWay hq) hs hok with hsame | ⟨-, -, hafter'⟩
      · rw [resumptions, resumptions, hsame, hbefore, hafter]
        rfl
      · rw [hafter] at hafter'
        cases hafter'
  have hinit : resumptions s (Pool.init w₀) = if isWaiting s w₀ then 1 else 0 := by
    rw [resumptions, Pool.count_init, Nat.zero_add]
    rfl
  rw [hinit] at hresumptions
  exact hrequests.trans ((Nat.le_add_right _ _).trans hresumptions)

/-! ### Two resumptions -/

def executor : MissionExecutor := ⟨⟨true⟩, ⟨.empty, { approvals := ⟨id⟩ }⟩⟩

/-- A mission whose step waits for approval. -/
def waiting : World where
  db :=
    { missions := ⟨[
        { id := "mission", title := "Check", description := "", ownerAgent := "sysadmin",
          source := "sysadmin_chat", status := .waitingApproval, createdAt := 0 }], by decide⟩
      steps := ⟨[
        { id := "step", missionId := "mission", position := 1, description := "",
          toolName := "host.status", toolArguments := none, status := .waitingApproval }],
        by decide⟩ }

def resume : Call := ⟨executor, "mission"⟩

/-- Two calls arrive, and take actions in the given order. -/
def schedule (ts : List ℕ) : List (Pool.Move Call World) :=
  .spawn resume :: .spawn resume :: ts.map .act

def played (ts : List ℕ) : ResumptionPool := Pool.play system (Pool.init waiting) (schedule ts)

/-- A test for steps that move a step on only where it is in WAITING_APPROVAL. -/
def meetsWaiting (p : ResumptionPool) : ResumptionLabel → Bool
  | .act _ _ (.stepAt s .running) => isWaiting s p.state
  | _ => true

lemma onWaiting_of_meetsWaiting (h : meetsWaiting p l = true) : OnWaiting p l q := by
  rintro t c s rfl
  exact h

/-- Both calls read the step before either has moved it on, and both send its request. -/
theorem not_atMostOnce_two_resumers : ¬AtMostOnce fun _ _ _ => True := by
  intro hatMostOnce
  let ts := (List.range 18).map (· % 2)
  have hrises : Pool.rises system (fun p => isWaiting "step" p.state) (Pool.init waiting)
      (schedule ts) = 0 := by
    decide
  have hadmissible : Pool.Admissible system (fun _ _ _ => True) (Pool.init waiting) (schedule ts) :=
    Pool.admissible_of_env (fun _ _ _ => trivial) fun f hf => by simp [schedule] at hf
  have hr := Pool.runCount_play (B := fun p : ResumptionPool => isWaiting "step" p.state)
    hadmissible
  rw [hrises] at hr
  have hle : (played ts).count (isRequest "step") ≤ 1 + 0 := hatMostOnce hr
  have htwo : (played ts).count (isRequest "step") = 2 := by decide
  omega

/-- One call after the other: the second raises, and the request is sent once. -/
theorem atMostOnce_in_turn :
    (played (List.replicate 9 0 ++ [1])).count (isRequest "step") ≤ 1 := by
  let ts := List.replicate 9 0 ++ [1]
  have hrises : Pool.rises system (fun p => isWaiting "step" p.state) (Pool.init waiting)
      (schedule ts) = 0 := rfl
  have hadmits : Pool.admits system meetsWaiting (Pool.init waiting) (schedule ts) = true := by
    decide
  have hadmissible : Pool.Admissible system OnWaiting (Pool.init waiting) (schedule ts) :=
    Pool.admissible_of_admits (fun _ _ _ => onWaiting_of_meetsWaiting)
      (fun f hf => by simp [schedule, ts] at hf) hadmits
  have hr := Pool.runCount_play (B := fun p : ResumptionPool => isWaiting "step" p.state)
    hadmissible
  rw [hrises] at hr
  have hle : (played ts).count (isRequest "step") ≤ 1 + 0 := atMostOnce hr
  exact hle

end Resumption
end AiHq
