import AiHq.Library.Pool
import AiHq.Missions.Executor

/-!
# Suspended missions

An operator suspends a mission by moving it to PAUSED or CANCELLED. What a worker does with its
plan from then on depends on what `run_next` has read: the claim of a step looks at the step only.
-/

namespace AiHq

open Concurrent Relational MissionService

namespace Suspension

inductive Call where
  | runNext (executor : MissionExecutor) (missionId : String)
  | transition (missions : MissionService) (missionId : String) (target : MissionStatus)
      (result errorState : Option Dict)

abbrev MissionPool := Pool Call PyError Event World Unit
abbrev MissionLabel := Label Call Event

/-- Steps stay, and stay with their mission. -/
def StepsKept (w w' : World) : Prop :=
  ∀ s step, w.db.steps.get? s = some step →
    ∃ step', w'.db.steps.get? s = some step' ∧ step'.missionId = step.missionId

/-- Whatever else happens, the steps stay with their missions. -/
def system : System Call PyError Event World Unit where
  code
    | .runNext executor missionId => (fun _ => ()) <$> executor.runNext missionId
    | .transition missions missionId target result errorState =>
      (fun _ => ()) <$> missions.transition missionId target result errorState
  env := StepsKept

/-! ### The property -/

def Suspended (m : String) (w : World) : Prop :=
  ∃ mission, w.db.missions.get? m = some mission ∧
    (mission.status = .paused ∨ mission.status = .cancelled)

/-- The step is one of the mission. -/
def StepOf (m s : String) (w : World) : Prop :=
  ∃ step, w.db.steps.get? s = some step ∧ step.missionId = m

def IsPending (s : String) (w : World) : Prop :=
  ∃ step, w.db.steps.get? s = some step ∧ step.status = .pending

def IsRunning (s : String) (w : World) : Prop :=
  ∃ step, w.db.steps.get? s = some step ∧ step.status = .running

/-- In all runs whose steps meet `ok`: while a mission stays suspended, no `run_next` call moves
one of its steps from PENDING to RUNNING, and none sends a request for one of its steps but a
call that had claimed the step before. -/
def Honoured (ok : MissionPool → MissionLabel → MissionPool → Prop) : Prop :=
  ∀ {w₀ : World} {p q r : MissionPool} {m s : String} {t : ℕ} {executor : MissionExecutor}
    {k : String} {e : Event},
    Pool.Run system ok (Pool.init w₀) p → Suspended m p.state →
    Pool.Run system (fun p l q => ok p l q ∧ Suspended m q.state) p q →
    Pool.Step system q (.act t (.runNext executor k) e) r →
    ok q (.act t (.runNext executor k) e) r → StepOf m s q.state →
    ¬(IsPending s q.state ∧ IsRunning s r.state) ∧
      (e = .gatewayRequest s → ∃ th, p.threads[t]? = some th ∧ .stepClaimed s ∈ th.history)

def IsClaim : Event → Prop
  | .stepClaimed _ => True
  | _ => False

/-- The call has read its mission, and may come to claim a step. -/
def Claiming (m : String) (th : Thread Call PyError Event World Unit) : Prop :=
  (∃ executor, th.call = .runNext executor m) ∧ th.history ≠ [] ∧ th.prog.CanShow IsClaim

/-- `run_next` does not begin on a PAUSED mission, and a mission is suspended only when no call of
`run_next` on it is between its read of the mission and its claim of a step. -/
structure Careful (p : MissionPool) (l : MissionLabel) (q : MissionPool) : Prop where
  begins : ∀ t executor m e mission, l = .act t (.runNext executor m) e →
    p.threads[t]?.map Thread.history = some [] → p.state.db.missions.get? m = some mission →
    mission.status ≠ .paused
  suspends : ∀ m, ¬Suspended m p.state → Suspended m q.state →
    ∀ th ∈ p.threads, ¬Claiming m th

/-! ### What a call does to steps -/

variable {w w' w'' : World} {e : Event} {m s : String} {α : Type}

lemma StepsKept.refl (w : World) : StepsKept w w := fun _ step h => ⟨step, h, rfl⟩

lemma StepsKept.trans (h : StepsKept w w') (h' : StepsKept w' w'') : StepsKept w w'' := by
  intro s step hs
  obtain ⟨step', hs', hm'⟩ := h s step hs
  obtain ⟨step'', hs'', hm''⟩ := h' s step' hs'
  exact ⟨step'', hs'', hm''.trans hm'⟩

lemma StepsKept.stepOf (h : StepsKept w w') (hs : StepOf m s w) : StepOf m s w' := by
  obtain ⟨step, hstep, rfl⟩ := hs
  obtain ⟨step', hstep', hm⟩ := h s step hstep
  exact ⟨step', hstep', hm⟩

/-- An action that begins no step. -/
structure Keeps (w : World) (e : Event) (w' : World) : Prop where
  kept : StepsKept w w'
  pending : ∀ s, IsPending s w → IsPending s w'
  noClaim : ∀ s, e ≠ .stepClaimed s
  noRequest : ∀ s, e ≠ .gatewayRequest s

/-- The event is neither a claim nor a request. -/
def Plain (e : Event) : Prop := (∀ s, e ≠ .stepClaimed s) ∧ ∀ s, e ≠ .gatewayRequest s

lemma plain_silent : Plain .silent := by constructor <;> simp

lemma Keeps.of_steps (hsteps : w'.db.steps = w.db.steps) (he : Plain e) : Keeps w e w' where
  kept s step hs := ⟨step, by rwa [hsteps], rfl⟩
  pending s hs := by rwa [IsPending, hsteps]
  noClaim := he.1
  noRequest := he.2

lemma keeps_silent (w : World) : Keeps w .silent w := .of_steps rfl plain_silent

/-- Replacing a step by another of the same mission. -/
lemma kept_set {step step' : MissionStep} {n : ℕ} {db : Database} {k : String}
    (hset : db.steps = w.db.steps.set step') (hget : w.db.steps.get? k = some step)
    (hid : step'.id = step.id) (hm : step'.missionId = step.missionId) :
    StepsKept w (w.commit n db) := by
  obtain rfl : step.id = k := Table.key_of_get? hget
  intro s x hx
  rw [World.commit_db, hset]
  by_cases hs : s = step.id
  · subst hs
    cases hget.symm.trans hx
    refine ⟨step', ?_, hm⟩
    rw [← hid]
    refine Table.get?_set_self (?_ : _ = some step)
    rw [key_missionStep, hid, hget]
  · exact ⟨x, by rwa [Table.get?_set_ne (by rwa [key_missionStep, hid])], rfl⟩

lemma every_query {g : Moment → Database → Except PyError α} : Every Keeps (Py.query g) :=
  Py.every_query fun w _ => keeps_silent w

lemma every_transition (missions : MissionService) (missionId : String) (target : MissionStatus)
    (result errorState : Option Dict) :
    Every Keeps (missions.transition missionId target result errorState) := by
  have hplain : Plain (.missionTransition missionId target) := by constructor <;> simp
  rw [MissionService.transition, Py.session]
  apply Py.every_transaction
  · intro w row' db hf
    obtain ⟨row, -, -, -, -, hsteps, -⟩ := transitionTx_eq_ok hf
    exact .of_steps hsteps hplain
  · intro w error _
    exact .of_steps rfl hplain

lemma every_transitionStep (stepId : String) (target : MissionStepStatus)
    (result errorState : Option Json) (approvalReference : Option String)
    (htarget : target ≠ .running) :
    Every Keeps (transitionStep stepId target result errorState approvalReference) := by
  rw [transitionStep, Py.session]
  apply Py.every_transaction
  · intro w step' db hf
    obtain ⟨step, hget, hallowed, rfl, rfl⟩ := transitionStepTx_eq_ok hf
    obtain rfl : step.id = stepId := Table.key_of_get? hget
    refine ⟨kept_set rfl hget rfl rfl, ?_, by simp, by simp⟩
    rintro s ⟨x, hx, hpending⟩
    by_cases hs : s = step.id
    · subst hs
      cases hget.symm.trans hx
      rw [hpending] at hallowed
      exact absurd (List.mem_singleton.mp hallowed) htarget
    · refine ⟨x, ?_, hpending⟩
      rw [World.commit_db]
      exact (Table.get?_set_ne hs).trans hx
  · intro w error _
    exact .of_steps rfl (by constructor <;> simp)

lemma settleFrame (executor : MissionExecutor) (missionId : String) :
    SettleFrame Keeps executor missionId where
  silent := keeps_silent
  transition := every_transition executor.missions missionId
  transitionStep := every_transitionStep

lemma every_execute (gateway : ToolGateway) (request : ToolRequest) :
    Every Keeps (gateway.execute request) := by
  refine (gateway.every_execute request).mono fun w e w' haction => ?_
  refine .of_steps haction.frame.steps ⟨?_, ?_⟩
  · rintro s rfl
    exact haction.event
  · rintro s rfl
    exact haction.event

/-! ### Contracts -/

/-- Steps are claimed by calls of `run_next` on their mission, requests are sent for steps that the
call has claimed, and no step begins without a claim. -/
structure Guarantee (c : Call) (h : List Event) (w : World) (e : Event) (w' : World) : Prop where
  kept : StepsKept w w'
  claimed : ∀ s, e = .stepClaimed s → ∃ executor m, c = .runNext executor m ∧ StepOf m s w
  requested : ∀ s, e = .gatewayRequest s → .stepClaimed s ∈ h
  pending : ∀ s, IsPending s w → IsPending s w' ∨ e = .stepClaimed s

def contract (c : Call) : Contract Event World where
  rely := StepsKept
  guar := Guarantee c
  rely_refl := StepsKept.refl
  rely_trans _ _ _ := StepsKept.trans

variable {c : Call} {h : List Event} {p : Py α}

lemma Keeps.guar (hk : Keeps w e w') : Guarantee c h w e w' where
  kept := hk.kept
  claimed s hs := absurd hs (hk.noClaim s)
  requested s hs := absurd hs (hk.noRequest s)
  pending s hs := .inl (hk.pending s hs)

/-- What begins no step may run at any time. -/
lemma safe_of_every (hp : Every Keeps p) (h : List Event) (w : World) :
    Safe (contract c) p h w fun h' _ w' => StepsKept w w' ∧ ∃ l, h' = h ++ l := by
  refine (hp.safe (F := StepsKept) (N := fun _ => True) ?_ (fun _ _ h => h)
    (fun _ _ _ => StepsKept.trans) h w).mono fun h' _ w' hP => ⟨hP.1, ?_⟩
  · intro h w e w' _ _ hk
    exact ⟨hk.guar, trivial, hk.kept, trivial⟩
  · obtain ⟨l, hl, -⟩ := hP.2
    exact ⟨l, hl⟩

lemma safe_perform (executor : MissionExecutor) (mission : Mission) {step : MissionStep}
    (hclaimed : .stepClaimed step.id ∈ h) :
    Safe (contract c) (executor.perform mission step) h w fun _ _ _ => True := by
  have hsettle {h : List Event} {w : World} (outcome : ToolOutcome) :
      Safe (contract c) (executor.settle mission step outcome) h w fun _ _ _ => True :=
    (safe_of_every ((settleFrame executor mission.id).settle rfl step outcome) h w).mono
      fun _ _ _ _ => trivial
  apply Py.safe_lift_bind
  · intro request _
    apply Py.safe_query_bind
    · intro v u _ _ _ _
      refine ⟨⟨.refl v, by simp, fun s hs => ?_, fun _ => .inl⟩, ?_⟩
      · cases hs
        exact hclaimed
      · apply (safe_of_every (every_execute executor.gateway request) _ _).bind
        · exact fun _ outcome _ _ => hsettle outcome
        · exact fun _ _ _ _ => trivial
    · intro v error _ _ hread _
      cases hread
  · intro error _
    exact Safe.raise fun _ _ _ => trivial

/-- A claim that returns a step has shown that it has taken it. -/
lemma safe_claimNextPendingStep (executor : MissionExecutor) :
    Safe (contract (.runNext executor m)) (claimNextPendingStep m) h w
      fun h' r _ => ∀ step, r = .ok (some step) → .stepClaimed step.id ∈ h' := by
  have hsilent (h : List Event) (v : World) :
      (contract (.runNext executor m)).guar h v .silent v := (keeps_silent v).guar
  apply Py.safe_query_bind
  · intro v first _ _ hfirst _
    refine ⟨hsilent _ v, ?_⟩
    cases first with
    | none =>
      apply Safe.ret
      rintro _ _ _ _ ⟨⟩
    | some stepId =>
      obtain ⟨step, hstep, rfl⟩ := Option.map_eq_some_iff.mp (Except.ok.inj hfirst)
      have hmem := List.mem_filter.mp (mem_of_firstBy hstep)
      have hof : StepOf m step.id v :=
        ⟨step, Table.get?_of_mem hmem.1, by simpa using (Bool.and_eq_true_iff.mp hmem.2).1⟩
      refine Safe.bind (P := fun h' r _ => r = .ok true → .stepClaimed step.id ∈ h') ?_ ?_ ?_
      · rw [Py.session]
        apply Py.safe_transaction
        · intro u claimed db hR _ hf _
          cases claimed with
          | false =>
            obtain rfl := claimStepTx_false (Except.ok.inj hf)
            exact ⟨hsilent _ u, trivial, fun _ _ _ hr => by cases hr⟩
          | true =>
            obtain ⟨row, hrow, -, rfl⟩ := claimStepTx_true (Except.ok.inj hf)
            obtain hid : row.id = step.id := Table.key_of_get? hrow
            have hguar : (contract (.runNext executor m)).guar (h ++ [.silent]) u
                (.stepClaimed step.id) (u.commit 0 { u.db with
                  steps := u.db.steps.set { row with status := .running } }) := by
              refine ⟨kept_set rfl hrow rfl rfl, ?_, by simp, ?_⟩
              · rintro s ⟨⟩
                exact ⟨executor, m, rfl, hR.stepOf hof⟩
              · rintro s ⟨x, hx, hpending⟩
                by_cases hs : s = step.id
                · exact .inr (by rw [hs])
                · refine .inl ⟨x, ?_, hpending⟩
                  rw [World.commit_db]
                  refine (Table.get?_set_ne ?_).trans hx
                  rwa [key_missionStep, hid]
            exact ⟨hguar, trivial, fun _ _ _ _ => by simp⟩
        · intro _ _ _ _ hf _
          cases hf
      · intro h' claimed v' hclaimed
        split_ifs with htrue
        · apply Py.safe_query
          · intro u found _ _ hfound _
            refine ⟨hsilent _ u, ?_⟩
            rintro _ _ _ x hx
            cases hx
            have hid : x.id = step.id := Table.key_of_get? (Except.ok.inj hfound)
            rw [hid]
            exact List.mem_append_left _ (hclaimed (by rw [htrue]))
          · intro _ _ _ _ hf _
            cases hf
        · apply Safe.ret
          rintro _ _ _ _ ⟨⟩
      · rintro _ _ _ _ _ ⟨⟩
  · intro _ _ _ _ hf _
    cases hf

lemma safe_advance (executor : MissionExecutor) {mission : Mission} (hid : mission.id = m) :
    Safe (contract (.runNext executor m)) (executor.advance mission) h w fun _ _ _ => True := by
  subst hid
  apply (safe_claimNextPendingStep executor).bind
  · intro h' claimed w' hclaimed
    have hframe := settleFrame executor mission.id
    cases claimed with
    | none => exact (safe_of_every (hframe.finish rfl) _ _).mono fun _ _ _ _ => trivial
    | some step =>
      apply (safe_of_every (hframe.startQueued rfl) _ _).bind
      · rintro _ started v ⟨-, l, rfl⟩
        exact safe_perform executor started (List.mem_append_left _ (hclaimed step rfl))
      · exact fun _ _ _ _ => trivial
  · exact fun _ _ _ _ => trivial

lemma safe_runNext (executor : MissionExecutor) (m : String) :
    Safe (contract (.runNext executor m)) (executor.runNext m) [] w fun _ _ _ => True := by
  apply Py.safe_query_bind
  · intro v mission _ _ hread _
    refine ⟨(keeps_silent v).guar, ?_⟩
    have hid : mission.id = m := Table.key_of_get? (getMissionTx_eq_ok.mp hread)
    have hadvance {h : List Event} {w : World} := safe_advance executor hid (h := h) (w := w)
    have hret {h : List Event} {w : World} (r : MissionExecutionResult) :
        Safe (contract (.runNext executor m)) (.ret r : Py MissionExecutionResult) h w
          fun _ _ _ => True := Safe.ret fun _ _ _ => trivial
    split
    · exact hret _
    · exact hret _
    · exact hret _
    · apply (safe_of_every every_query _ _).bind
      · intro _ waiting _ _
        cases waiting with
        | none => exact hadvance
        | some waiting => exact hret _
      · exact fun _ _ _ _ => trivial
    all_goals exact hadvance
  · intro v error _ _ _ _
    exact ⟨(keeps_silent v).guar, Safe.raise fun _ _ _ => trivial⟩

lemma safe_code (c : Call) : Safe (contract c) (system.code c) [] w fun _ _ _ => True := by
  cases c with
  | runNext executor missionId =>
    apply (safe_runNext executor missionId).bind
    · exact fun _ _ _ _ => Safe.ret fun _ _ _ => trivial
    · exact fun _ _ _ _ => trivial
  | transition missions missionId target result errorState =>
    refine (safe_of_every (p := (fun _ => ()) <$> missions.transition missionId target result
      errorState) ?_ _ _).mono fun _ _ _ _ => trivial
    exact (every_transition missions missionId target result errorState).bind fun _ => .ret _

/-! ### Runs -/

variable {ok : MissionPool → MissionLabel → MissionPool → Prop} {p q r : MissionPool}
  {l : MissionLabel}

lemma compatible : Pool.Compatible system (fun _ _ _ => True) (fun _ => True) contract
    fun _ _ _ _ => True where
  inv_iff _ _ := Iff.rfl
  env _ _ _ hkept _ := ⟨trivial, fun _ => hkept⟩
  act _ _ _ _ _ _ _ _ hg := hg.1
  cond _ _ _ _ _ _ _ _ _ := trivial
  code _ c _ _ _ := safe_code c

/-- Every call is under way as its code runs. -/
abbrev UnderWay (p : MissionPool) : Prop :=
  Pool.AllSafe (fun _ => True) contract (fun _ _ _ _ => True) p

lemma underWay (hr : Pool.Run system ok (Pool.init w) p) : UnderWay p :=
  (hr.mono fun _ _ _ _ => trivial).safe compatible (Pool.allSafe_init trivial)

/-- No call is on its way to a claim of a step of a suspended mission. -/
def Clear (p : MissionPool) : Prop :=
  ∀ m, Suspended m p.state → ∀ th ∈ p.threads, ¬Claiming m th

/-- From its read of a mission that is not suspended, and only then, can a call come to a
claim. -/
lemma not_suspended_of_read {executor : MissionExecutor} {ev : World → Event} {upd : World → World}
    {next : World → Prog PyError Event World Unit}
    (hcode : .act ev upd next = system.code (.runNext executor m))
    (hpaused : ∀ mission, w.db.missions.get? m = some mission → mission.status ≠ .paused)
    (hclaim : (next w).CanShow IsClaim) : upd w = w ∧ ¬Suspended m w := by
  obtain ⟨-, rfl, rfl⟩ := Prog.act.inj hcode
  cases hm : w.db.missions.get? m with
  | none =>
    have hread : getMissionTx m w.db = .error (.keyError ("mission not found: " ++ m)) := by
      rw [getMissionTx, hm]
    simp only [hread, Except.map] at hclaim ⊢
    cases hclaim
  | some mission =>
    have hread : getMissionTx m w.db = .ok mission := getMissionTx_eq_ok.mpr hm
    simp only [hread, Except.map] at hclaim ⊢
    refine ⟨rfl, ?_⟩
    rintro ⟨found, hfound, hstatus⟩
    cases hm.symm.trans hfound
    rcases hstatus with hstatus | hstatus
    · exact hpaused mission hm hstatus
    · simp only [Prog.bind, hstatus] at hclaim
      exact hclaim

/-- A call is on its way to a claim because it was so before the step, or because it has just read
a mission that is not suspended. -/
lemma Claiming.before (hr : Pool.Run system ok (Pool.init w) p) (hs : Pool.Step system p l q)
    (hcareful : Careful p l q) {th : Thread Call PyError Event World Unit} (hth : th ∈ q.threads)
    (hclaiming : Claiming m th) :
    (∃ th' ∈ p.threads, Claiming m th') ∨ q.state = p.state ∧ ¬Suspended m p.state := by
  cases hs with
  | spawn c =>
    rcases List.mem_append.mp hth with hth | hth
    · exact .inl ⟨th, hth, hclaiming⟩
    · obtain rfl := List.mem_singleton.mp hth
      exact absurd rfl hclaiming.2.1
  | env _ => exact .inl ⟨th, hth, hclaiming⟩
  | @act t c h ev upd next ht =>
    have hmem := List.mem_of_getElem? ht
    rcases List.mem_or_eq_of_mem_set hth with hth | rfl
    · exact .inl ⟨th, hth, hclaiming⟩
    · obtain ⟨⟨executor, rfl⟩, -, hshow⟩ := hclaiming
      by_cases hnil : h = []
      · subst hnil
        refine .inr (not_suspended_of_read (hr.code_of_history_nil _ hmem rfl) ?_ hshow)
        intro mission hm
        exact hcareful.begins t executor m _ mission rfl (by rw [ht]; rfl) hm
      · exact .inl ⟨_, hmem, ⟨executor, rfl⟩, hnil, p.state, .inr hshow⟩

lemma Clear.step (hr : Pool.Run system ok (Pool.init w) p) (hclear : Clear p)
    (hs : Pool.Step system p l q) (hcareful : Careful p l q) : Clear q := by
  intro m hq th hth hclaiming
  rcases hclaiming.before hr hs hcareful hth with ⟨th', hth', hclaiming'⟩ | ⟨hstate, hp⟩
  · by_cases hp : Suspended m p.state
    · exact hclear m hp th' hth' hclaiming'
    · exact hcareful.suspends m hp hq th' hth' hclaiming'
  · rw [hstate] at hq
    exact hp hq

lemma clear (hr : Pool.Run system Careful (Pool.init w) p) : Clear p := by
  induction hr with
  | refl => exact fun m _ th hth => by cases hth
  | tail hr hs hok ih => exact ih.step hr hs hok

/-- A call that claims a step has read its mission before. -/
lemma claiming_of_step {t : ℕ} {executor : MissionExecutor}
    (hr : Pool.Run system ok (Pool.init w) p)
    (hs : Pool.Step system p (.act t (.runNext executor m) (.stepClaimed s)) q) :
    ∃ th ∈ p.threads, Claiming m th := by
  have aux {e : Event} (hs : Pool.Step system p (.act t (.runNext executor m) e) q)
      (he : IsClaim e) : ∃ th ∈ p.threads, Claiming m th := by
    cases hs with
    | @act t c h ev upd next ht =>
      have hmem := List.mem_of_getElem? ht
      refine ⟨_, hmem, ⟨executor, rfl⟩, ?_, p.state, .inl he⟩
      rintro rfl
      -- the first event of a call is silent
      obtain ⟨rfl, -, -⟩ := Prog.act.inj (hr.code_of_history_nil _ hmem rfl)
      exact he
  exact aux hs trivial

lemma StepOf.unique {k : String} (hm : StepOf m s w) (hk : StepOf k s w) : m = k := by
  obtain ⟨step, hstep, rfl⟩ := hm
  obtain ⟨step', hstep', rfl⟩ := hk
  cases hstep.symm.trans hstep'
  rfl

/-- No call claims a step of a suspended mission. -/
lemma not_claimed (hr : Pool.Run system Careful (Pool.init w) p) (hm : Suspended m p.state)
    {t : ℕ} {c : Call} (hs : Pool.Step system p (.act t c (.stepClaimed s)) q) :
    ¬StepOf m s p.state := by
  intro hof
  obtain ⟨h, prog, -, -, hg⟩ := (underWay hr).guar compatible hs trivial
  obtain ⟨executor, k, rfl, hk⟩ := hg.claimed s rfl
  obtain ⟨th, hth, hclaiming⟩ := claiming_of_step hr hs
  rw [hof.unique hk] at hm
  exact clear hr k hm th hth hclaiming

lemma stepsKept (hp : UnderWay p) (hs : Pool.Step system p l q) : StepsKept p.state q.state := by
  cases l with
  | spawn c =>
    cases hs
    exact .refl _
  | env =>
    cases hs with
    | env hkept => exact hkept
  | act t c e =>
    obtain ⟨h, prog, -, -, hg⟩ := hp.guar compatible hs trivial
    exact hg.kept

/-- A call that has claimed a step of a mission that stays suspended had claimed it before. -/
lemma claimed_before (hr : Pool.Run system Careful (Pool.init w) p) (hm : Suspended m p.state)
    (hr' : Pool.Run system (fun p l q => Careful p l q ∧ Suspended m q.state) p q)
    (hof : StepOf m s q.state) {t : ℕ} {th : Thread Call PyError Event World Unit}
    (ht : q.threads[t]? = some th) (hclaimed : .stepClaimed s ∈ th.history) :
    ∃ th', p.threads[t]? = some th' ∧ .stepClaimed s ∈ th'.history := by
  -- a claim that is new was of a step of another mission
  let P (q : MissionPool) : Prop :=
    (Pool.Run system Careful (Pool.init w) q ∧ Suspended m q.state) ∧
      ∀ th, q.threads[t]? = some th → .stepClaimed s ∈ th.history →
        (∃ th', p.threads[t]? = some th' ∧ .stepClaimed s ∈ th'.history) ∨
          ∃ k, k ≠ m ∧ StepOf k s q.state
  have hq : P q := by
    refine hr'.invariant ⟨⟨hr, hm⟩, fun th ht hc => .inl ⟨th, ht, hc⟩⟩ ?_
    rintro q l r ⟨⟨hq, hmq⟩, hhistory⟩ hs ⟨hok, hmr⟩
    have hkept := stepsKept (underWay hq) hs
    refine ⟨⟨hq.tail hs hok, hmr⟩, fun th ht hc => ?_⟩
    rcases hs.mem_history ht hc with ⟨th', ht', hc'⟩ | ⟨c, rfl⟩
    · refine (hhistory th' ht' hc').imp_right ?_
      rintro ⟨k, hk, hof⟩
      exact ⟨k, hk, hkept.stepOf hof⟩
    · obtain ⟨h, prog, -, -, hg⟩ := (underWay hq).guar compatible hs trivial
      obtain ⟨executor, k, rfl, hk⟩ := hg.claimed s rfl
      refine .inr ⟨k, ?_, hkept.stepOf hk⟩
      rintro rfl
      exact not_claimed hq hmq hs hk
  rcases hq.2 th ht hclaimed with hbefore | ⟨k, hne, hk⟩
  · exact hbefore
  · exact absurd (hk.unique hof) hne

/-- Suspensions are honoured in the runs in which `run_next` does not begin on a PAUSED mission and
no mission is suspended between the read and the claim of a call. -/
theorem honoured {w₀ : World} {p q r : MissionPool} {m s : String} {t : ℕ}
    {executor : MissionExecutor} {k : String} {e : Event}
    (hr : Pool.Run system Careful (Pool.init w₀) p) (hm : Suspended m p.state)
    (hr' : Pool.Run system (fun p l q => Careful p l q ∧ Suspended m q.state) p q)
    (hs : Pool.Step system q (.act t (.runNext executor k) e) r)
    (hok : Careful q (.act t (.runNext executor k) e) r) (hof : StepOf m s q.state) :
    ¬(IsPending s q.state ∧ IsRunning s r.state) ∧
      (e = .gatewayRequest s → ∃ th, p.threads[t]? = some th ∧ .stepClaimed s ∈ th.history) := by
  have hq : Pool.Run system Careful (Pool.init w₀) q ∧ Suspended m q.state := by
    refine hr'.invariant (P := fun q => Pool.Run system Careful (Pool.init w₀) q ∧
      Suspended m q.state) ⟨hr, hm⟩ ?_
    exact fun q l r hq hs hok => ⟨hq.1.tail hs hok.1, hok.2⟩
  obtain ⟨h, prog, ht, -, hg⟩ := (underWay hq.1).guar compatible hs trivial
  constructor
  · rintro ⟨hpending, step, hstep, hrunning⟩
    rcases hg.pending s hpending with ⟨step', hstep', hpending'⟩ | rfl
    · cases hstep.symm.trans hstep'
      rw [hrunning] at hpending'
      cases hpending'
    · exact not_claimed hq.1 hq.2 hs hof
  · rintro rfl
    exact claimed_before hr hm hr' hof ht (hg.requested s rfl)

/-! ### An operator and a worker -/

def executor : MissionExecutor := ⟨⟨true⟩, ⟨.empty, { approvals := ⟨id⟩ }⟩⟩

/-- A mission under way with a plan of one step. -/
def planned : World where
  db :=
    { missions := ⟨[
        { id := "mission", title := "Check", description := "", ownerAgent := "sysadmin",
          source := "sysadmin_chat", status := .running, createdAt := 0 }], by decide⟩
      steps := ⟨[
        { id := "step", missionId := "mission", position := 1, description := "",
          toolName := "host.status", toolArguments := none }], by decide⟩ }

/-- An operator is to move the mission. -/
def moving (target : MissionStatus) : MissionPool :=
  Pool.move system (Pool.init planned) (.spawn (.transition ⟨true⟩ "mission" target none none))

def moved (target : MissionStatus) : MissionPool := Pool.move system (moving target) (.act 0)

/-- A worker has called `run_next`, and the call has taken `n` actions. -/
def working (target : MissionStatus) (n : ℕ) : MissionPool :=
  Pool.play system (moved target) (.spawn (.runNext executor "mission") :: List.replicate n (.act 1))

lemma step_working {target : MissionStatus} {n : ℕ}
    (hl : (Pool.Move.act 1 : Pool.Move Call World).label? (working target n) = some l) :
    Pool.Step system (working target n) l (Pool.move system (working target n) (.act 1)) :=
  Pool.step_move hl

/-- `run_next` begins the step of a mission that has been paused. -/
theorem not_honoured_paused : ¬Honoured fun _ _ _ => True := by
  intro hhonoured
  have hr : Pool.Run system (fun _ _ _ => True) (Pool.init planned) (moved .paused) := by
    have hmove : Pool.Step system (moving .paused)
        (.act 0 (.transition ⟨true⟩ "mission" .paused none none)
          (.missionTransition "mission" .paused)) (moved .paused) := Pool.step_move rfl
    exact ((Pool.Run.refl _).tail (.spawn _ _) trivial).tail hmove trivial
  have hspawn : Pool.Step system (moved .paused) (.spawn (.runNext executor "mission"))
      (working .paused 0) := .spawn _ _
  have hread : Pool.Step system (working .paused 0) (.act 1 (.runNext executor "mission") .silent)
      (working .paused 1) := step_working rfl
  have hquery : Pool.Step system (working .paused 1) (.act 1 (.runNext executor "mission") .silent)
      (working .paused 2) := step_working rfl
  have hclaim : Pool.Step system (working .paused 2)
      (.act 1 (.runNext executor "mission") (.stepClaimed "step")) (working .paused 3) :=
    step_working rfl
  have hstart : Pool.Run system (fun _ _ q => True ∧ Suspended "mission" q.state)
      (moved .paused) (moved .paused) := .refl _
  have hr' := ((hstart.tail hspawn
    ⟨trivial, _, rfl, .inl rfl⟩).tail hread ⟨trivial, _, rfl, .inl rfl⟩).tail hquery
    ⟨trivial, _, rfl, .inl rfl⟩
  have hrunning : IsRunning "step" (working .paused 3).state := by
    refine ⟨_, rfl, ?_⟩
    rfl
  exact (hhonoured hr ⟨_, rfl, .inl rfl⟩ hr' hclaim trivial ⟨_, rfl, rfl⟩).1
    ⟨⟨_, rfl, rfl⟩, hrunning⟩

/-- A step that leaves the tables as they are, and begins no call on a PAUSED mission. -/
lemma careful_of_same (hstate : q.state = p.state)
    (hbegins : ∀ mission ∈ p.state.db.missions.rows, mission.status ≠ .paused) : Careful p l q where
  begins _ _ _ _ mission _ _ hm := hbegins mission (Table.mem_of_get? hm)
  suspends m hp hq := by
    rw [hstate] at hq
    exact absurd hq hp

/-- `run_next` leaves the step of a mission that has been cancelled alone. -/
theorem honoured_cancelled :
    ¬(IsPending "step" (working .cancelled 0).state ∧
      IsRunning "step" (working .cancelled 1).state) := by
  have hr : Pool.Run system Careful (Pool.init planned) (moved .cancelled) := by
    have hspawn : Pool.Step system (Pool.init planned)
        (.spawn (.transition ⟨true⟩ "mission" .cancelled none none)) (moving .cancelled) :=
      .spawn _ _
    have hmove : Pool.Step system (moving .cancelled)
        (.act 0 (.transition ⟨true⟩ "mission" .cancelled none none)
          (.missionTransition "mission" .cancelled)) (moved .cancelled) := Pool.step_move rfl
    refine ((Pool.Run.refl _).tail hspawn (careful_of_same rfl (by decide))).tail hmove ⟨?_, ?_⟩
    · rintro t executor m e mission ⟨⟩
    · rintro m - - th hth ⟨⟨executor, hcall⟩, -⟩
      obtain rfl := List.mem_singleton.mp hth
      cases hcall
  have hspawn : Pool.Step system (moved .cancelled) (.spawn (.runNext executor "mission"))
      (working .cancelled 0) := .spawn _ _
  have hread : Pool.Step system (working .cancelled 0)
      (.act 1 (.runNext executor "mission") .silent) (working .cancelled 1) := step_working rfl
  have hstart : Pool.Run system (fun p l q => Careful p l q ∧ Suspended "mission" q.state)
      (moved .cancelled) (moved .cancelled) := .refl _
  have hr' := hstart.tail hspawn
    ⟨careful_of_same rfl (by decide), _, rfl, .inr rfl⟩
  exact (honoured hr ⟨_, rfl, .inr rfl⟩ hr' hread (careful_of_same rfl (by decide))
    ⟨_, rfl, rfl⟩).1

end Suspension
end AiHq
