import AiHq.Missions.Executor

/-!
# The order of a plan

Any number of workers advance the same plan, each claiming the first incomplete step by a read
and a later conditional UPDATE. The steps are taken strictly in their order.
-/

namespace AiHq

open Concurrent Relational MissionService MissionExecutor

namespace PlanOrder

/-! ### The shape of a plan -/

/-- `SUCCEEDED*`, then at most one step under way, waiting or failed, then `PENDING*`. -/
def Shaped (statuses : List MissionStepStatus) : Prop :=
  ∃ done active left, statuses = List.replicate done .succeeded ++ active ++
      List.replicate left .pending ∧
    (active = [] ∨ active = [.running] ∨ active = [.waitingApproval] ∨ active = [.failed])

/-- A step is behind another: the other is begun only when it has succeeded. -/
def Behind (a b : MissionStepStatus) : Prop := b ≠ .pending → a = .succeeded

lemma shaped_of_pairwise {statuses : List MissionStepStatus} (h : statuses.Pairwise Behind) :
    Shaped statuses := by
  induction statuses with
  | nil => exact ⟨0, [], 0, rfl, .inl rfl⟩
  | cons a l ih =>
    obtain ⟨ha, hl⟩ := List.pairwise_cons.mp h
    by_cases hs : a = .succeeded
    · obtain ⟨done, active, left, rfl, hactive⟩ := ih hl
      exact ⟨done + 1, active, left, by simp [hs, List.replicate_succ], hactive⟩
    · have hpending : l = List.replicate l.length .pending :=
        List.eq_replicate_iff.mpr ⟨rfl, fun b hb => by_contra fun hne => hs (ha b hb hne)⟩
      by_cases hp : a = .pending
      · refine ⟨0, [], l.length + 1, ?_, .inl rfl⟩
        rw [List.replicate_succ, ← hpending, hp]
        rfl
      · refine ⟨0, [a], l.length, ?_, ?_⟩
        · rw [← hpending]
          rfl
        · clear hpending
          cases a <;> simp_all

/-! ### The invariant -/

/-- The step belongs to the plan of the mission. -/
def OfPlan (m : String) (db : Database) (s : MissionStep) : Prop :=
  s ∈ db.steps.rows ∧ s.missionId = m

/-- The positions of a plan are distinct, and a step is begun only when those before it have
succeeded. -/
structure Ordered (m : String) (db : Database) : Prop where
  positions : ∀ a b, OfPlan m db a → OfPlan m db b → a.position = b.position → a = b
  behind : ∀ a b, OfPlan m db a → OfPlan m db b → a.position < b.position →
    Behind a.status b.status

/-- The statuses of the plan, by position. -/
def planStatuses (m : String) (db : Database) : List MissionStepStatus :=
  (planSteps m db).map MissionStep.status

lemma mem_planSteps {m : String} {db : Database} {s : MissionStep} :
    s ∈ planSteps m db ↔ OfPlan m db s := by
  simp [planSteps, OfPlan]

/-- The statuses of an ordered plan, by position, have the shape. -/
lemma Ordered.shaped {m : String} {db : Database} (h : Ordered m db) :
    Shaped (planStatuses m db) := by
  refine shaped_of_pairwise (List.pairwise_map.mpr ?_)
  have hsorted : (planSteps m db).Pairwise fun a b => a.order ≤ b.order := pairwise_orderBy _ _
  have hnodup : (planSteps m db).Nodup := by
    refine (List.perm_insertionSort _ _).nodup_iff.mpr (List.Nodup.filter _ ?_)
    exact List.Nodup.of_map _ db.steps.nodup
  refine (List.Pairwise.and_mem.mp (hsorted.and hnodup)).imp ?_
  rintro a b ⟨ha, hb, hle, hne⟩
  rw [mem_planSteps] at ha hb
  refine h.behind a b ha hb (lt_of_le_of_ne ?_ fun heq => hne (h.positions a b ha hb heq))
  exact (Prod.Lex.le_iff.mp hle).elim le_of_lt fun h => h.1.le

/-- The plan has the same steps, and none has gone back: what has succeeded still has, and what
has begun is not pending again. -/
structure Forward (m : String) (db db' : Database) : Prop where
  kept : ∀ s, OfPlan m db s → ∃ s', OfPlan m db' s' ∧ s'.id = s.id ∧ s'.position = s.position ∧
    (s.status = .succeeded → s'.status = .succeeded) ∧
    (s.status ≠ .pending → s'.status ≠ .pending)
  old : ∀ s', OfPlan m db' s' → ∃ s, OfPlan m db s ∧ s'.id = s.id

lemma Forward.refl (m : String) (db : Database) : Forward m db db :=
  ⟨fun s hs => ⟨s, hs, rfl, rfl, id, id⟩, fun s hs => ⟨s, hs, rfl⟩⟩

lemma Forward.trans {m : String} {db₁ db₂ db₃ : Database} (h : Forward m db₁ db₂)
    (h' : Forward m db₂ db₃) : Forward m db₁ db₃ := by
  refine ⟨fun s hs => ?_, fun s hs => ?_⟩
  · obtain ⟨s', hs', hid, hpos, hsucc, hbegun⟩ := h.kept s hs
    obtain ⟨s'', hs'', hid', hpos', hsucc', hbegun'⟩ := h'.kept s' hs'
    exact ⟨s'', hs'', hid'.trans hid, hpos'.trans hpos, hsucc' ∘ hsucc, hbegun' ∘ hbegun⟩
  · obtain ⟨s', hs', hid⟩ := h'.old s hs
    obtain ⟨s'', hs'', hid'⟩ := h.old s' hs'
    exact ⟨s'', hs'', hid.trans hid'⟩

/-- Only the steps matter. -/
lemma Forward.of_steps {m : String} {db db' : Database} (h : db'.steps = db.steps) :
    Forward m db db' := by
  have hplan : ∀ s, OfPlan m db s ↔ OfPlan m db' s := by simp [OfPlan, h]
  exact ⟨fun s hs => ⟨s, (hplan s).mp hs, rfl, rfl, id, id⟩,
    fun s hs => ⟨s, (hplan s).mpr hs, rfl⟩⟩

/-! ### Writing a step -/

section Write

variable {m : String} {db db' : Database} {s s' : MissionStep}

lemma ofPlan_set (hs : OfPlan m db s) (hid : s'.id = s.id) (hm : s'.missionId = m)
    (hset : db'.steps = db.steps.set s') {x : MissionStep} :
    OfPlan m db' x ↔ x = s' ∨ (OfPlan m db x ∧ x.id ≠ s.id) := by
  rw [OfPlan, hset, Table.mem_set]
  simp only [key_missionStep, hid]
  constructor
  · rintro ⟨⟨rfl, -⟩ | ⟨hx, hne⟩, hxm⟩
    · exact .inl rfl
    · exact .inr ⟨⟨hx, hxm⟩, hne⟩
  · rintro (rfl | ⟨⟨hx, hxm⟩, hne⟩)
    · exact ⟨.inl ⟨rfl, s, hs.1, rfl⟩, hm⟩
    · exact ⟨.inr ⟨hx, hne⟩, hxm⟩

lemma eq_of_id {x : MissionStep} (hs : OfPlan m db s) (hx : OfPlan m db x) (hid : x.id = s.id) :
    x = s := Table.eq_of_key_eq hx.1 hs.1 hid

lemma forward_set (hs : OfPlan m db s) (hid : s'.id = s.id) (hm : s'.missionId = m)
    (hpos : s'.position = s.position) (hset : db'.steps = db.steps.set s')
    (hsucc : s.status ≠ .succeeded) (hbegun : s'.status ≠ .pending) : Forward m db db' := by
  refine ⟨fun x hx => ?_, fun x hx => ?_⟩
  · by_cases hxs : x.id = s.id
    · obtain rfl := eq_of_id hs hx hxs
      exact ⟨s', (ofPlan_set hs hid hm hset).mpr (.inl rfl), hid, hpos,
        fun h => absurd h hsucc, fun _ => hbegun⟩
    · exact ⟨x, (ofPlan_set hs hid hm hset).mpr (.inr ⟨hx, hxs⟩), rfl, rfl, id, id⟩
  · rcases (ofPlan_set hs hid hm hset).mp hx with rfl | ⟨hx, -⟩
    · exact ⟨s, hs, hid⟩
    · exact ⟨x, hx, rfl⟩

/-- A step that has not succeeded may be written as begun once those before it have succeeded. -/
lemma Ordered.set (h : Ordered m db) (hs : OfPlan m db s) (hid : s'.id = s.id)
    (hm : s'.missionId = m) (hpos : s'.position = s.position)
    (hset : db'.steps = db.steps.set s') (hsucc : s.status ≠ .succeeded)
    (hbefore : ∀ a, OfPlan m db a → a.position < s.position → a.status = .succeeded) :
    Ordered m db' := by
  have hmem := fun x => ofPlan_set (x := x) hs hid hm hset
  refine ⟨fun a b ha hb heq => ?_, fun a b ha hb hlt hb' => ?_⟩
  · rcases (hmem a).mp ha with rfl | ⟨ha, hna⟩ <;> rcases (hmem b).mp hb with rfl | ⟨hb, hnb⟩
    · rfl
    · exact absurd (congrArg MissionStep.id (h.positions s b hs hb (hpos ▸ heq))).symm hnb
    · exact absurd (congrArg MissionStep.id (h.positions a s ha hs (heq.trans hpos))) hna
    · exact h.positions a b ha hb heq
  · rcases (hmem a).mp ha with rfl | ⟨ha, -⟩ <;> rcases (hmem b).mp hb with rfl | ⟨hb, -⟩
    · exact absurd hlt (lt_irrefl _)
    · exact absurd (h.behind s b hs hb (hpos ▸ hlt) hb') hsucc
    · exact hbefore a ha (hpos ▸ hlt)
    · exact h.behind a b ha hb hlt hb'

/-- A step of the plan that has begun. -/
def Begun (m k : String) (db : Database) : Prop :=
  ∃ s, OfPlan m db s ∧ s.id = k ∧ s.status ≠ .pending

/-- All steps of the plan before a step have succeeded. -/
def Reached (m k : String) (db : Database) : Prop :=
  ∃ s, OfPlan m db s ∧ s.id = k ∧
    ∀ a, OfPlan m db a → a.position < s.position → a.status = .succeeded

lemma Begun.forward {k : String} (hb : Begun m k db) (h : Forward m db db') : Begun m k db' := by
  obtain ⟨s, hs, rfl, hst⟩ := hb
  obtain ⟨s', hs', hid, -, -, hbegun⟩ := h.kept s hs
  exact ⟨s', hs', hid, hbegun hst⟩

lemma Begun.of_id {k k' : String} (hb : Begun m k db) (hid : k = k') : Begun m k' db := hid ▸ hb

lemma Reached.forward {k : String} (hr : Reached m k db) (h : Forward m db db') :
    Reached m k db' := by
  obtain ⟨s, hs, rfl, hbefore⟩ := hr
  obtain ⟨s', hs', hid, hpos, -, -⟩ := h.kept s hs
  refine ⟨s', hs', hid, fun a ha hlt => ?_⟩
  obtain ⟨b, hb, hida⟩ := h.old a ha
  obtain ⟨b', hb', hidb, hposb, hsucc, -⟩ := h.kept b hb
  obtain rfl : a = b' := eq_of_id hb' ha (hida.trans hidb.symm)
  exact hsucc (hbefore b hb (by omega))

/-- What has begun has all before it succeeded. -/
lemma Ordered.reached {k : String} (h : Ordered m db) (hb : Begun m k db) : Reached m k db := by
  obtain ⟨s, hs, hid, hst⟩ := hb
  exact ⟨s, hs, hid, fun a ha hlt => h.behind a s ha hs hlt hst⟩

/-- Writing a step that has been reached and has not succeeded, as begun. -/
lemma Ordered.write (h : Ordered m db) (s' : MissionStep) (hs : OfPlan m db s)
    (hid : s'.id = s.id) (hm : s'.missionId = m) (hpos : s'.position = s.position)
    (hsucc : s.status ≠ .succeeded) (hbegun : s'.status ≠ .pending)
    (hbefore : ∀ a, OfPlan m db a → a.position < s.position → a.status = .succeeded) :
    Forward m db { db with steps := db.steps.set s' } ∧
      Ordered m { db with steps := db.steps.set s' } ∧
      Begun m s.id { db with steps := db.steps.set s' } :=
  ⟨forward_set hs hid hm hpos rfl hsucc hbegun, h.set hs hid hm hpos rfl hsucc hbefore,
    s', (ofPlan_set hs hid hm rfl).mpr (.inl rfl), hid, hbegun⟩

end Write

/-! ### The contract of a worker -/

/-- Others keep the plan in order and going forward; so does the worker, which claims pending
steps and sends to the gateway only requests of steps that have been reached. -/
def contract (m : String) : Contract Event World where
  inv w := Ordered m w.db
  rely w w' := Forward m w.db w'.db
  guar _ w e w' := Forward m w.db w'.db ∧ (∀ k, e = .gatewayRequest k → Reached m k w.db) ∧
    ∀ k, e = .stepClaimed k → ¬Begun m k w.db ∧ Begun m k w'.db
  rely_refl w := .refl m w.db
  rely_trans _ _ _ h h' := h.trans h'

variable {m k : String} {h : List Event} {w w' : World} {e : Event} {α β : Type}

lemma guar_of_aside (ha : Aside w e w') (h : List Event) : (contract m).guar h w e w' := by
  refine ⟨.of_steps ha.steps, ?_, ?_⟩
  all_goals
    rintro k rfl
    exact absurd trivial ha.event

lemma Ordered.of_steps {db db' : Database} (ho : Ordered m db) (hsteps : db'.steps = db.steps) :
    Ordered m db' := by
  have hplan : ∀ s, OfPlan m db' s ↔ OfPlan m db s := by simp [OfPlan, hsteps]
  exact ⟨fun a b ha hb => ho.positions a b ((hplan a).mp ha) ((hplan b).mp hb),
    fun a b ha hb => ho.behind a b ((hplan a).mp ha) ((hplan b).mp hb)⟩

/-- A part of the program that leaves the steps alone. -/
lemma safe_aside {p : Py α} (hp : Every Aside p) (h : List Event) (w : World) :
    Safe (contract m) p h w fun _ _ w' => Forward m w.db w'.db :=
  (hp.safe (C := contract m) (F := fun w w' => Forward m w.db w'.db) (N := fun _ => True)
    (fun h _ _ _ hI _ ha =>
      ⟨guar_of_aside ha h, hI.of_steps ha.steps, .of_steps ha.steps, trivial⟩)
    (fun _ _ hR => hR) (fun _ _ _ h h' => h.trans h') h w).mono fun _ _ _ hP => hP.1

/-! ### The worker -/

/-- A step that has begun moves on and stays begun. -/
lemma safe_transitionStep {target : MissionStepStatus} {result errorState : Option Json}
    {approvalReference : Option String} (hb : Begun m k w.db) (htarget : target ≠ .pending) :
    Safe (contract m) (transitionStep k target result errorState approvalReference) h w
      fun _ r w' => ∀ s, r = .ok s → s.id = k ∧ Begun m k w'.db := by
  unfold transitionStep Py.session
  refine Py.safe_transaction (fun v s' db hR hI hf _ => ?_) fun v e hR hI hf _ => ?_
  · obtain ⟨s, hget, hallowed, rfl, rfl⟩ := transitionStepTx_eq_ok hf
    obtain ⟨t, ht, hid, hst⟩ := hb.forward hR
    obtain rfl : s = t :=
      Table.eq_of_key_eq (Table.mem_of_get? hget) ht.1 ((Table.key_of_get? hget).trans hid.symm)
    have hsucc : s.status ≠ .succeeded := by
      intro hs
      simp [hs, allowedStepTransitions] at hallowed
    obtain ⟨hforward, hordered, hbegun⟩ := hI.write
      { s with
        status := target
        result := result.or s.result
        errorState := errorState.or s.errorState
        approvalReference := approvalReference.or s.approvalReference }
      ht rfl ht.2 rfl hsucc htarget fun a ha hlt => hI.behind a s ha ht hlt hst
    refine ⟨⟨hforward, by simp, by simp⟩, hordered, fun t hR' _ s' hs' => ?_⟩
    cases hs'
    exact ⟨hid, hid ▸ hbegun.forward hR'⟩
  · exact ⟨⟨.refl m _, by simp, by simp⟩, by simp⟩

/-- The first incomplete step has all steps before it succeeded. -/
lemma reached_of_firstIncomplete {db : Database} {s : MissionStep}
    (hs : firstIncomplete m db = some s) : Reached m s.id db := by
  have hmem := mem_of_firstBy hs
  simp only [List.mem_filter, Bool.and_eq_true, decide_eq_true_eq] at hmem
  refine ⟨s, ⟨hmem.1, hmem.2.1⟩, rfl, fun a ha hlt => by_contra fun hne => ?_⟩
  have hle := firstBy_le hs a (by simpa using ⟨ha.1, ha.2, hne⟩)
  have : s.position ≤ a.position := (Prod.Lex.le_iff.mp hle).elim le_of_lt fun h => h.1.le
  omega

lemma safe_claimNextPendingStep (h : List Event) (w : World) :
    Safe (contract m) (claimNextPendingStep m) h w
      fun _ r w' => ∀ s, r = .ok (some s) → Begun m s.id w'.db := by
  refine Py.safe_query_bind (fun v first hR hI hfirst _ => ⟨guar_of_aside (aside_silent _) h,
    ?_⟩) fun v e _ _ he _ => ?_
  · cases hf : firstIncomplete m v.db with
    | none =>
      rw [hf] at hfirst
      cases hfirst
      exact Safe.ret fun _ _ _ _ hs => by cases hs
    | some s =>
      rw [hf] at hfirst
      cases hfirst
      have hreached := reached_of_firstIncomplete hf
      refine Py.safe_transaction_bind (fun u claimed db hR' hI' htx _ => ?_)
        fun u e _ _ he _ => ?_
      · cases claimed with
        | false =>
          obtain rfl := claimStepTx_false (Except.ok.inj htx)
          exact ⟨guar_of_aside (aside_silent _) _, hI',
            Safe.ret fun _ _ _ _ hs => by cases hs⟩
        | true =>
          obtain ⟨t, hget, hpending, rfl⟩ := claimStepTx_true (Except.ok.inj htx)
          obtain ⟨t', ht', hid, hbefore⟩ := hreached.forward hR'
          obtain rfl : t = t' := Table.eq_of_key_eq (Table.mem_of_get? hget) ht'.1
            ((Table.key_of_get? hget).trans hid.symm)
          have hnot : ¬Begun m s.id u.db := by
            rintro ⟨t'', ht'', hid'', hst⟩
            exact hst (eq_of_id ht' ht'' (hid''.trans hid.symm) ▸ hpending)
          obtain ⟨hforward, hordered, hbegun⟩ := hI'.write { t with status := .running } ht' rfl
            ht'.2 rfl (by simp [hpending]) (by simp) hbefore
          have hbegun := hbegun.of_id hid
          refine ⟨⟨hforward, by simp, fun k hk => ?_⟩, hordered, ?_⟩
          · cases hk
            exact ⟨hnot, hbegun⟩
          · refine Py.safe_query (fun x r hx _ hr _ => ⟨guar_of_aside (aside_silent _) _,
              fun y hy _ s' hs' => ?_⟩) fun x e _ _ he _ => ?_
            · have hget' : x.db.steps.get? s.id = some s' :=
                (Except.ok.inj hr).trans (Except.ok.inj hs')
              rw [show s'.id = s.id from Table.key_of_get? hget']
              exact (hbegun.forward hx).forward hy
            · cases he
      · cases he
  · cases he

/-- What follows an action that leaves the steps alone may count on the steps having gone forward
only. -/
lemma safe_aside_bind {p : Py α} {c : α → Py β} {Q : List Event → Except PyError β → World → Prop}
    (hp : Every Aside p)
    (hc : ∀ h' a w', Forward m w.db w'.db → Safe (contract m) (c a) h' w' Q)
    (hQ : ∀ h' e w', Q h' (.error e) w') : Safe (contract m) (p >>= c) h w Q :=
  (safe_aside hp h w).bind (fun h' a w' hF => hc h' a w' hF) fun h' e w' _ => hQ h' e w'

/-- The worker ends in any way. -/
def Ended (_ : List Event) (_ : Except PyError α) (_ : World) : Prop := True

lemma safe_settle (self : MissionExecutor) (mission : Mission) {step : MissionStep}
    (outcome : ToolOutcome) (h : List Event) (hb : Begun m step.id w.db) :
    Safe (contract m) (self.settle mission step outcome) h w Ended := by
  have hmoved : ∀ {target result errorState reference} {c : MissionStep → Py _},
      target ≠ .pending → (∀ s, Every Aside (c s)) →
      Safe (contract m) (transitionStep step.id target result errorState reference >>= c) h w
        (Ended (α := MissionExecutionResult)) := by
    intro target result errorState reference c htarget hc
    refine (safe_transitionStep hb htarget).bind (fun h' s w' _ => ?_) fun _ _ _ _ => trivial
    exact (safe_aside (hc s) h' w').mono fun _ _ _ _ => trivial
  unfold MissionExecutor.settle
  split
  · exact hmoved (by simp) fun s => (every_transition ..).bind fun _ => .ret _
  · exact hmoved (by simp) fun s => every_complete self mission s outcome
  · exact hmoved (by simp) fun s => every_complete self mission s outcome
  · exact hmoved (by simp) fun s => (every_transition ..).bind fun _ => .ret _
  · exact hmoved (by simp) fun s => (every_transition ..).bind fun _ => .ret _

/-- The request of a step that has begun reaches the gateway after all steps before it have
succeeded. -/
lemma safe_perform (self : MissionExecutor) (mission : Mission) {step : MissionStep}
    (h : List Event) (hb : Begun m step.id w.db) :
    Safe (contract m) (self.perform mission step) h w Ended := by
  refine Py.safe_lift_bind (fun request _ => ?_) fun _ _ => .raise fun _ _ _ => trivial
  refine Py.safe_query_bind (fun v _ hR hI _ _ => ?_) fun v e _ _ he => by cases he
  have hb := hb.forward hR
  refine ⟨⟨.refl m _, fun k hk => ?_, by simp⟩, ?_⟩
  · cases hk
    exact hI.reached hb
  · refine safe_aside_bind ((self.gateway.every_execute request).mono fun _ _ _ => aside_of_gateway)
      (fun h' outcome w' hF => ?_) fun _ _ _ => trivial
    exact safe_settle self mission outcome h' (hb.forward hF)

lemma safe_advance (self : MissionExecutor) {mission : Mission} (hm : mission.id = m)
    (h : List Event) (w : World) : Safe (contract m) (self.advance mission) h w Ended := by
  subst hm
  refine (safe_claimNextPendingStep h w).bind (fun h' step w' hstep => ?_) fun _ _ _ _ => trivial
  cases step with
  | none => exact (safe_aside (every_finish self mission) h' w').mono fun _ _ _ _ => trivial
  | some step =>
    refine safe_aside_bind (every_startQueued self mission) (fun h'' mission w'' hF => ?_)
      fun _ _ _ => trivial
    exact safe_perform self mission h'' ((hstep step rfl).forward hF)

lemma safe_getMission_bind {c : Mission → Py β} (h : List Event) (w : World)
    (hc : ∀ h' mission w', mission.id = m → Safe (contract m) (c mission) h' w' Ended) :
    Safe (contract m) (getMission m >>= c) h w Ended := by
  refine Py.safe_query_bind (fun v mission _ _ hget _ => ?_) fun v e _ _ _ _ => ?_
  · exact ⟨guar_of_aside (aside_silent _) h,
      hc _ _ _ (Table.key_of_get? (getMissionTx_eq_ok.mp hget))⟩
  · exact ⟨guar_of_aside (aside_silent _) h, .raise fun _ _ _ => trivial⟩

lemma safe_runNext (self : MissionExecutor) (w : World) :
    Safe (contract m) (self.runNext m) [] w Ended := by
  refine safe_getMission_bind [] w fun h mission w hm => ?_
  split
  · exact .ret fun _ _ _ => trivial
  · exact .ret fun _ _ _ => trivial
  · exact .ret fun _ _ _ => trivial
  · refine safe_aside_bind every_query (fun h waiting w _ => ?_) fun _ _ _ => trivial
    cases waiting with
    | none => exact safe_advance self hm h w
    | some waiting => exact .ret fun _ _ _ => trivial
  all_goals exact safe_advance self hm h w

/-- Approval is asked of a step that has begun. -/
lemma safe_resumeApproved (self : MissionExecutor) (w : World) :
    Safe (contract m) (self.resumeApproved m) [] w Ended := by
  refine safe_getMission_bind [] w fun h mission w hm => ?_
  subst hm
  refine Py.safe_lift_bind (fun _ _ => ?_) fun _ _ => .raise fun _ _ _ => trivial
  refine Py.safe_query_bind (fun v step _ _ hstep _ => ⟨guar_of_aside (aside_silent _) _, ?_⟩)
    fun v e _ _ _ _ => ⟨guar_of_aside (aside_silent _) _, .raise fun _ _ _ => trivial⟩
  cases step with
  | none => exact .raise fun _ _ _ => trivial
  | some step =>
    simp only [bind_eq_ok] at hstep
    obtain ⟨_, -, hfirst⟩ := hstep
    have hmem := mem_of_firstBy (Except.ok.inj hfirst)
    simp only [List.mem_filter, Bool.and_eq_true, decide_eq_true_eq] at hmem
    have hb : Begun mission.id step.id v.db :=
      ⟨step, ⟨hmem.1, hmem.2.1⟩, rfl, by simp [hmem.2.2]⟩
    refine (safe_transitionStep hb (by simp)).bind (fun h' s w' hs => ?_) fun _ _ _ _ => trivial
    refine safe_aside_bind (every_transition ..) (fun h'' mission w'' hF => ?_)
      fun _ _ _ => trivial
    obtain ⟨hid, hb⟩ := hs s rfl
    exact safe_perform self mission h'' ((hb.of_id hid.symm).forward hF)

/-! ### A new plan -/

/-- The steps of a new plan are pending, at consecutive positions. -/
lemma planned_of_entries {ids : ℕ → String} {entries : List PlanEntry} {n : ℕ}
    {planned : List MissionStep}
    (hp : (entries.zipIdx n).mapM (fun (entry, i) => planEntryStep m ids i entry) = .ok planned) :
    planned.map MissionStep.position = List.range' (n + 1) entries.length ∧
      ∀ s ∈ planned, s.missionId = m ∧ s.status = .pending := by
  induction entries generalizing n planned with
  | nil =>
    cases hp
    simp
  | cons entry entries ih =>
    simp only [List.zipIdx_cons, List.mapM_cons, bind_eq_ok, planEntryStep] at hp
    obtain ⟨s, ⟨description, -, toolName, -, hs⟩, rest, hrest, hp⟩ := hp
    cases hp
    cases hs
    obtain ⟨hpos, hmem⟩ := ih hrest
    refine ⟨by simp [hpos, List.range'_succ], fun s hs => ?_⟩
    rcases List.mem_cons.mp hs with rfl | hs
    · exact ⟨rfl, rfl⟩
    · exact hmem s hs

lemma ordered_of_createPlanTx {moment : Moment} {db db' : Database} {entries : List PlanEntry}
    {planned : List MissionStep} (hp : createPlanTx m entries moment db = .ok (planned, db')) :
    Ordered m db' := by
  simp only [createPlanTx, bind_eq_ok, raiseIf_eq_ok, getMissionTx_eq_ok] at hp
  obtain ⟨mission, hget, _, hnone, planned', hmap, hp⟩ := hp
  split at hp
  · cases hp
  · next steps hinsert =>
    cases hp
    rw [show mission.id = m from Table.key_of_get? hget] at hmap
    obtain ⟨hpos, hmem⟩ := planned_of_entries hmap
    have hplan : ∀ s, OfPlan m { db with steps } s → s ∈ planned := by
      rintro s ⟨hs, hsm⟩
      rw [Table.insertAll?_rows hinsert, List.mem_append] at hs
      refine hs.resolve_left fun hs => hnone ?_
      exact List.any_eq_true.mpr ⟨s, hs, by simpa using hsm⟩
    refine ⟨fun a b ha hb heq => ?_, fun a b _ hb _ hbegun => ?_⟩
    · refine List.inj_on_of_nodup_map ?_ (hplan a ha) (hplan b hb) heq
      exact hpos ▸ List.nodup_range'
    · exact absurd (hmem b (hplan b hb)).2 hbegun

lemma ordered_of_createPlan {w₀ w₁ : World} {entries : List PlanEntry}
    {registry : Option ToolRegistry} {planned : List MissionStep}
    (hp : (createPlan m entries registry).run w₀ = (.ok planned, w₁)) : Ordered m w₁.db := by
  have htx : (Py.transaction entries.length (createPlanTx m entries)).run w₀
      = (.ok planned, w₁) → Ordered m w₁.db := by
    intro hw
    rw [Py.run_transaction] at hw
    split at hw
    · next planned' db hok =>
      cases hw
      exact ordered_of_createPlanTx hok
    · cases hw
  unfold createPlan raiseIf at hp
  split_ifs at hp with hempty
  · cases hp
  · cases registry with
    | none => exact htx hp
    | some registry =>
      change (Py.lift (checkTools registry entries) >>= fun _ => Py.transaction entries.length
        (createPlanTx m entries)).run w₀ = _ at hp
      cases hc : checkTools registry entries with
      | ok _ =>
        rw [hc] at hp
        exact htx hp
      | error e =>
        rw [hc] at hp
        cases hp

/-! ### Any number of workers -/

inductive Call where
  | runNext (executor : MissionExecutor)
  | resumeApproved (executor : MissionExecutor)

/-- Anything else may happen, except to the steps of the plan. -/
def system (m : String) : System Call PyError Event World MissionExecutionResult where
  code
    | .runNext executor => executor.runNext m
    | .resumeApproved executor => executor.resumeApproved m
  env w w' := ∀ s, OfPlan m w'.db s ↔ OfPlan m w.db s

def claims (k : String) : Event → Bool
  | .stepClaimed k' => k' = k
  | _ => false

lemma eq_of_claims (he : claims k e = true) : e = .stepClaimed k := by
  cases e with
  | stepClaimed k' => exact congrArg Event.stepClaimed (of_decide_eq_true he)
  | _ => cases he

lemma Forward.of_plan {db db' : Database} (h : ∀ s, OfPlan m db' s ↔ OfPlan m db s) :
    Forward m db db' :=
  ⟨fun s hs => ⟨s, (h s).mpr hs, rfl, rfl, id, id⟩, fun s hs => ⟨s, (h s).mp hs, rfl⟩⟩

lemma Ordered.of_plan {db db' : Database} (ho : Ordered m db)
    (h : ∀ s, OfPlan m db' s ↔ OfPlan m db s) : Ordered m db' :=
  ⟨fun a b ha hb => ho.positions a b ((h a).mp ha) ((h b).mp hb),
    fun a b ha hb => ho.behind a b ((h a).mp ha) ((h b).mp hb)⟩

lemma compatible : Pool.Compatible (system m) (fun _ _ _ => True) (fun w => Ordered m w.db)
    (fun _ => contract m) fun _ => Ended where
  inv_iff _ _ := Iff.rfl
  env _ _ _ henv hI := ⟨hI.of_plan henv, fun _ => .of_plan henv⟩
  act _ _ _ _ _ _ _ _ hg := hg.1
  cond _ _ _ _ _ _ _ _ _ := trivial
  code p c _ _ _ := by
    cases c with
    | runNext executor => exact safe_runNext executor p.state
    | resumeApproved executor => exact safe_resumeApproved executor p.state

/-- The claims of a step: at most one, and with it the step has begun. -/
def ClaimedOnce (m : String) (p : Pool Call PyError Event World MissionExecutionResult) : Prop :=
  ∀ k, p.count (claims k) = 0 ∨ p.count (claims k) = 1 ∧ Begun m k p.state.db

/-- Strict step order and single ownership: at every point of every run of workers on a new plan
the statuses of its steps have the shape, the request of a step reaches the gateway only after
every earlier step has succeeded, and a step is claimed at most once. -/
theorem plan_order {w₀ w₁ : World} {entries : List PlanEntry} {registry : Option ToolRegistry}
    {planned : List MissionStep} {p : Pool Call PyError Event World MissionExecutionResult}
    (hplan : (createPlan m entries registry).run w₀ = (.ok planned, w₁))
    (hr : Pool.Run (system m) (fun _ _ _ => True) (Pool.init w₁) p) :
    Shaped (planStatuses m p.state.db) ∧
    (∀ k q t c, Pool.Step (system m) p (.act t c (.gatewayRequest k)) q →
      Reached m k p.state.db) ∧
    ∀ k, p.count (claims k) ≤ 1 := by
  have hinit : Pool.AllSafe (fun w => Ordered m w.db) (fun _ => contract m) (fun _ => Ended)
      (Pool.init w₁ : Pool Call PyError Event World MissionExecutionResult) :=
    Pool.allSafe_init (ordered_of_createPlan hplan)
  have hsafe := hr.safe compatible hinit
  have honce : ClaimedOnce m p := by
    refine hr.safe_invariant compatible hinit (fun k => .inl rfl) ?_ ?_ ?_
    · intro p c q hp hs _ k
      have hcount : q.count (claims k) = p.count (claims k) := hs.count
      cases hs
      exact hcount ▸ hp k
    · intro p q hp hs _ k
      have hcount : q.count (claims k) = p.count (claims k) := hs.count
      cases hs with
      | env henv => exact (hp k).imp_right fun h => ⟨h.1, h.2.forward (.of_plan henv)⟩
    · rintro p t c e q h prog hp _ hs _ _ ⟨hforward, -, hclaim⟩ k
      have hcount : q.count (claims k) = p.count (claims k) + if claims k e then 1 else 0 :=
        hs.count
      by_cases he : claims k e = true
      · obtain ⟨hnot, hbegun⟩ := hclaim k (eq_of_claims he)
        rw [if_pos he] at hcount
        refine .inr ⟨?_, hbegun⟩
        rw [hcount, (hp k).resolve_right fun h => hnot h.2]
      · rw [if_neg he, Nat.add_zero] at hcount
        rw [hcount]
        exact (hp k).imp_right fun h => ⟨h.1, h.2.forward hforward⟩
  refine ⟨hsafe.1.shaped, fun k q t c hs => ?_, fun k => ?_⟩
  · obtain ⟨h, prog, -, -, -, hreq, -⟩ := hsafe.guar compatible hs trivial
    exact hreq k rfl
  · rcases honce k with h | h <;> omega

/-! ### Two workers on one plan -/

def cleanupWorld : World where
  db :=
    { missions := ⟨[
        { id := "cleanup", title := "Clean up", description := "clear the cache, then restart",
          ownerAgent := "sysadmin", source := "hq_chat", createdAt := 0 }], by simp⟩
      agents := ⟨[
        { key := "sysadmin", permissions := some [.str "cache.clear", .str "restart"] }], by simp⟩
      systemState := some { operatingMode := "normal", simulationMode := false } }

def cleanupEntries : List PlanEntry :=
  [⟨some "clear the cache", some "cache.clear", none⟩, ⟨some "restart", some "restart", none⟩]

def cleanupExecutor : MissionExecutor where
  missions := ⟨true⟩
  gateway :=
    { registry := ⟨["cache.clear", "restart"], by decide, by decide⟩
      safety := { approvals := ⟨id⟩ } }

/-- Both workers find the first step incomplete before either claims it. -/
def cleanupRace : Pool Call PyError Event World MissionExecutionResult :=
  Pool.play (system "cleanup")
    (Pool.init ((createPlan "cleanup" cleanupEntries).run cleanupWorld).2)
    (List.replicate 2 (.spawn (.runNext cleanupExecutor)) ++ List.replicate 2 (.act 0) ++
      List.replicate 2 (.act 1) ++ List.replicate 19 (.act 0) ++ List.replicate 2 (.act 1))

theorem plan_order_cleanupRace :
    Shaped (planStatuses "cleanup" cleanupRace.state.db) ∧
      cleanupRace.count (claims "0") ≤ 1 := by
  have hplan : (createPlan "cleanup" cleanupEntries).run cleanupWorld =
      (.ok [
          { id := "0", missionId := "cleanup", position := 1, description := "clear the cache",
            toolName := "cache.clear", toolArguments := some [] },
          { id := "1", missionId := "cleanup", position := 2, description := "restart",
            toolName := "restart", toolArguments := some [] }],
        ((createPlan "cleanup" cleanupEntries).run cleanupWorld).2) := by rfl
  have hr : Pool.Run (system "cleanup") (fun _ _ _ => True) _ cleanupRace :=
    Pool.run_play (Pool.admissible_of_env (fun _ _ _ => trivial) (by simp))
  obtain ⟨hshaped, -, hclaims⟩ := plan_order hplan hr
  exact ⟨hshaped, hclaims "0"⟩

end PlanOrder
end AiHq
