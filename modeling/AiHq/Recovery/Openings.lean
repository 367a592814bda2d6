import AiHq.Library.Pool
import AiHq.Recovery.Agreement

/-!
# Recovery missions that race

A recovery mission and its plan are committed before the incident is linked to the mission, and
the link decides between calls that race. What they have committed by then stays.
-/

namespace AiHq

open Concurrent Relational Recovery

namespace Openings

open Handling

/-- A call of `create_recovery_mission` on the incident. -/
structure Call where
  readiness : Dict
  serviceState : Option String
  observeOnly : Bool

abbrev OpeningPool := Pool Call PyError Event World (Option Mission)
abbrev OpeningLabel := Label Call Event

/-- The incidents change as an operation of the service changes them. -/
def Operates (service : RecoveryService) (t t' : Table RecoveryIncident) : Prop :=
  ∃ closed now db db', Effect service closed now db db' ∧ db.incidents = t ∧ db'.incidents = t'

/-- Whatever else happens, and operates on incidents too, it plans no recovery. -/
structure Elsewhere (service : RecoveryService) (w w' : World) : Prop where
  incidents : Relation.ReflTransGen (Operates service) w.db.incidents w'.db.incidents
  plans : ∀ m, HasRecoveryPlan m w'.db ↔ HasRecoveryPlan m w.db
  uuids : w'.uuids = w.uuids

def system (observer : RecoveryObserver) (incidentId : String) :
    System Call PyError Event World (Option Mission) where
  code c := observer.createRecoveryMission incidentId c.readiness c.serviceState c.observeOnly
  env := Elsewhere observer.recovery

/-! ### The property -/

/-- A worker can execute the recovery mission. -/
def Runnable (m : String) (db : Database) : Prop :=
  ∃ mission, db.missions.get? m = some mission ∧ mission.status = .queued ∧ HasRecoveryPlan m db

/-- The calls have planned a recovery by the mission. -/
def Planned (w₀ : World) (m : String) (w : World) : Prop :=
  ¬HasRecoveryPlan m w₀.db ∧ HasRecoveryPlan m w.db

/-- In all runs whose steps meet `ok`, at most one of the missions of the calls is ever one that a
worker can execute. -/
def OneRunnable (ok : OpeningPool → OpeningLabel → OpeningPool → Prop) : Prop :=
  ∀ {observer : RecoveryObserver} {incidentId : String} {w₀ : World} {p q : OpeningPool},
    Reachable observer.recovery w₀ → (∀ n, w₀.uuids n ≠ "") →
    Pool.Run (system observer incidentId) ok (Pool.init w₀) p →
    Pool.Run (system observer incidentId) ok p q →
    ∀ m m', Planned w₀ m p.state → Runnable m p.state.db → Planned w₀ m' q.state →
      Runnable m' q.state.db → m = m'

/-! ### Incidents that get no further mission -/

/-- The states from which an incident can become pending. -/
def recoverable : List RecoveryIncidentState := [.suspect, .diagnosing, .recoveryPending]

/-- What no operation takes back. -/
structure Onward (old new : RecoveryIncident) : Prop where
  mission : old.recoveryMissionId ≠ none → new.recoveryMissionId ≠ none
  out : old.state ∉ recoverable → new.state ∉ recoverable
  pending : old.state = .recoveryPending →
    new.state = .recoveryPending ∨ new.state ∉ recoverable

variable {service : RecoveryService} {closed : Option String} {now : Datetime}
  {old new : RecoveryIncident} {db db' : Database} {t t' : Table RecoveryIncident}

lemma Onward.refl (incident : RecoveryIncident) : Onward incident incident := ⟨id, id, .inl⟩

lemma Onward.trans {r r' r'' : RecoveryIncident} (h : Onward r r') (h' : Onward r' r'') :
    Onward r r'' := by
  refine ⟨fun hm => h'.mission (h.mission hm), fun ho => h'.out (h.out ho), fun hp => ?_⟩
  rcases h.pending hp with hp | ho
  · exact h'.pending hp
  · exact .inr (h'.out ho)

lemma onward_update (h : Update service closed now old new) : Onward old new := by
  cases h with
  | diagnosed | verifying | healed | resolved | escalated =>
    exact ⟨id, fun h => by simp_all [recoverable], fun h => by simp_all [recoverable]⟩
  | observed diagnostics hactive helapsed =>
    refine ⟨id, fun hout => ?_, fun hp => ?_⟩
    · by_cases hsuspect : old.state = .suspect
      · exact absurd (by simp [hsuspect, recoverable]) hout
      · simpa [hsuspect] using hout
    · simp [hp]
  | pending hactive hstate => exact ⟨id, fun hout => absurd hstate hout, fun _ => .inl rfl⟩
  | attached => exact ⟨fun _ => by simp, id, .inl⟩
  | claimed => exact ⟨id, fun _ => by simp [recoverable], fun _ => .inr (by simp [recoverable])⟩

lemma onward_withAttempt (now : Datetime) (incident : RecoveryIncident) (simulated : Bool) :
    Onward incident (withAttempt incident simulated now) := by
  unfold withAttempt
  split_ifs
  · exact .refl _
  · exact ⟨id, id, .inl⟩

lemma onward_operates (h : Relation.ReflTransGen (Operates service) t t') :
    Table.Keeps Onward t t' := by
  induction h with
  | refl => exact .refl Onward.refl _
  | tail _ hstep ih =>
    obtain ⟨closed, now, db, db', heffect, rfl, rfl⟩ := hstep
    refine ih.trans (fun _ _ _ h h' => h.trans h') ?_
    exact Incidents.keeps_effect Onward.refl (fun _ _ => onward_update) (onward_withAttempt now)
      heffect

/-- The incident is out of the states from which it can become pending. -/
def Out (incidentId : String) (db : Database) : Prop :=
  ∃ incident, db.incidents.get? incidentId = some incident ∧ incident.state ∉ recoverable

/-- The incident gets no further mission: it has one, or it cannot become pending. -/
def Shut (incidentId : String) (db : Database) : Prop :=
  ∃ incident, db.incidents.get? incidentId = some incident ∧
    (incident.recoveryMissionId ≠ none ∨ incident.state ∉ recoverable)

/-- The incident is pending, or gets no further mission. -/
def Held (incidentId : String) (db : Database) : Prop :=
  ∃ incident, db.incidents.get? incidentId = some incident ∧
    (incident.state = .recoveryPending ∨ incident.recoveryMissionId ≠ none ∨
      incident.state ∉ recoverable)

section Kept

variable {incidentId : String}

lemma Out.shut (h : Out incidentId db) : Shut incidentId db := by
  obtain ⟨incident, hget, hout⟩ := h
  exact ⟨incident, hget, .inr hout⟩

lemma Out.keeps (h : Out incidentId db) (hkeeps : Table.Keeps Onward db.incidents db'.incidents) :
    Out incidentId db' := by
  obtain ⟨incident, hget, hout⟩ := h
  obtain ⟨incident', hget', honward⟩ := hkeeps _ _ hget
  exact ⟨incident', hget', honward.out hout⟩

lemma Shut.keeps (h : Shut incidentId db)
    (hkeeps : Table.Keeps Onward db.incidents db'.incidents) : Shut incidentId db' := by
  obtain ⟨incident, hget, hshut⟩ := h
  obtain ⟨incident', hget', honward⟩ := hkeeps _ _ hget
  exact ⟨incident', hget', hshut.imp honward.mission honward.out⟩

lemma Held.keeps (h : Held incidentId db)
    (hkeeps : Table.Keeps Onward db.incidents db'.incidents) : Held incidentId db' := by
  obtain ⟨incident, hget, hpending | hmission | hout⟩ := h
  · obtain ⟨incident', hget', honward⟩ := hkeeps _ _ hget
    exact ⟨incident', hget', (honward.pending hpending).imp_right .inr⟩
  · obtain ⟨incident', hget', honward⟩ := hkeeps _ _ hget
    exact ⟨incident', hget', .inr (.inl (honward.mission hmission))⟩
  · obtain ⟨incident', hget', honward⟩ := hkeeps _ _ hget
    exact ⟨incident', hget', .inr (.inr (honward.out hout))⟩

end Kept

/-! ### The contract of a call -/

variable {w₀ w w' : World} {incidentId m : String}

/-- What holds at all times: at most one recovery has been planned. -/
structure Lawful (w₀ w : World) : Prop where
  sound : Incidents.Sound w.db
  named : ∀ incident ∈ w.db.incidents.rows, incident.recoveryMissionId ≠ some ""
  uuids : w.uuids = w₀.uuids
  unique : ∀ m m', Planned w₀ m w → Planned w₀ m' w → m = m'

/-- What holds while no call is under way: where a recovery has been planned, the incident gets
no further mission. -/
def Resting (w₀ : World) (incidentId : String) (w : World) : Prop :=
  (∃ m, Planned w₀ m w) → Shut incidentId w.db

/-- What is planned stays planned. -/
def contract (service : RecoveryService) (w₀ : World) : Contract Event World where
  inv := Lawful w₀
  rely := Elsewhere service
  guar _ w _ w' := ∀ m, HasRecoveryPlan m w.db → HasRecoveryPlan m w'.db
  rely_refl _ := ⟨.refl, fun _ => Iff.rfl, rfl⟩
  rely_trans _ _ _ h h' := ⟨h.incidents.trans h'.incidents,
    fun m => (h'.plans m).trans (h.plans m), h'.uuids.trans h.uuids⟩

/-- What holds of a world and stays so, whatever others do. -/
def Stable (service : RecoveryService) (P : World → Prop) : Prop :=
  ∀ w w', P w → Elsewhere service w w' → P w'

lemma planned_iff (h : Elsewhere service w w') : Planned w₀ m w' ↔ Planned w₀ m w :=
  and_congr_right fun _ => h.plans m

lemma lawful_elsewhere (h : Lawful w₀ w) (he : Elsewhere service w w') : Lawful w₀ w' := by
  have hkept (t : Table RecoveryIncident)
      (ht : Relation.ReflTransGen (Operates service) w.db.incidents t) :
      ∀ db, db.incidents = t → Incidents.Sound db ∧
        ∀ incident ∈ db.incidents.rows, incident.recoveryMissionId ≠ some "" := by
    induction ht with
    | refl =>
      intro db hdb
      exact ⟨h.sound.congr hdb, by rw [hdb]; exact h.named⟩
    | tail _ hstep ih =>
      obtain ⟨closed, now, db₁, db₂, heffect, hdb₁, rfl⟩ := hstep
      obtain ⟨hsound, hnamed⟩ := ih db₁ hdb₁
      intro db hdb
      exact ⟨(hsound.effect heffect).congr hdb, by
        rw [hdb]; exact Incidents.missionId_effect hnamed heffect⟩
  obtain ⟨hsound, hnamed⟩ := hkept _ he.incidents _ rfl
  refine ⟨hsound, hnamed, he.uuids.trans h.uuids, fun m m' hm hm' => ?_⟩
  exact h.unique m m' ((planned_iff he).mp hm) ((planned_iff he).mp hm')

/-- An operation of the service plans nothing. -/
lemma elsewhere_effect (h : Effect service closed now w.db db) (n : ℕ) :
    Elsewhere service w (w.commit n db) := by
  refine ⟨.single ⟨closed, now, w.db, db, h, rfl, rfl⟩, fun m => ?_, rfl⟩
  cases h <;> exact Iff.rfl

section Stability

lemma stable_resting : Stable service (Resting w₀ incidentId) := by
  rintro w w' h he ⟨m, hm⟩
  exact (h ⟨m, (planned_iff he).mp hm⟩).keeps (onward_operates he.incidents)

/-- Nothing has been planned. -/
def Unplanned (w₀ w : World) : Prop := ∀ m, ¬Planned w₀ m w

lemma stable_out : Stable service fun w => Out incidentId w.db := by
  intro w w' h he
  exact h.keeps (onward_operates he.incidents)

lemma Unplanned.resting (h : Unplanned w₀ w) : Resting w₀ incidentId w :=
  fun ⟨m, hm⟩ => absurd hm (h m)

lemma stable_unplanned : Stable service (Unplanned w₀) := by
  intro w w' h he m hm
  exact h m ((planned_iff he).mp hm)

lemma stable_held : Stable service fun w => Held incidentId w.db := by
  intro w w' h he
  exact h.keeps (onward_operates he.incidents)

lemma Stable.and {P P' : World → Prop} (h : Stable service P) (h' : Stable service P') :
    Stable service fun w => P w ∧ P' w :=
  fun w w' hw he => ⟨h w w' hw.1 he, h' w w' hw.2 he⟩

lemma Stable.const (a : Prop) : Stable service fun _ => a := fun _ _ h _ => h

lemma Stable.or {P P' : World → Prop} (h : Stable service P) (h' : Stable service P') :
    Stable service fun w => P w ∨ P' w :=
  fun w w' hw he => hw.imp (h w w' · he) (h' w w' · he)

end Stability

/-! ### The calls of the service -/

section Calls

variable {α : Type} {h : List Event} {n : ℕ} {message : String} {P E : World → Prop}
  {R : α → World → Prop} {f : Moment → Database → Except PyError (α × Database)}
  {ev : Except PyError α → Event}

/-- What a program leaves behind when it returns, and when it raises. -/
def Leaves (R : α → World → Prop) (E : World → Prop) (_ : List Event) (r : Except PyError α)
    (w : World) : Prop :=
  match r with
  | .ok a => R a w
  | .error _ => E w

/-- A transaction that starts in `P`. -/
lemma safe_transaction (hw : P w) (hP : Stable service P) (hE : Stable service E)
    (hR : ∀ a, Stable service (R a))
    (hok : ∀ v a db, Lawful w₀ v → P v → f v.moment v.db = .ok (a, db) →
      Lawful w₀ (v.commit n db) ∧ R a (v.commit n db) ∧
        ∀ m, HasRecoveryPlan m v.db → HasRecoveryPlan m db)
    (herr : ∀ v e, Lawful w₀ v → P v → f v.moment v.db = .error e → E v) :
    Safe (contract service w₀) (Py.transaction n f ev) h w (Leaves R E) := by
  refine Py.safe_transaction (fun v a db hrely hinv hf _ => ?_) fun v e hrely hinv hf _ => ?_
  · obtain ⟨hlawful, hleft, hplans⟩ := hok v a db hinv (hP _ _ hw hrely) hf
    exact ⟨hplans, hlawful, fun u hu _ => hR a _ _ hleft hu⟩
  · refine ⟨fun _ => id, fun u hu _ => ?_⟩
    exact hE _ _ (herr v e hinv (hP _ _ hw hrely) hf) hu

/-- The same in a handler that only raises. -/
lemma safe_caught {handler : PyError → Py α} (hraise : ∀ e, ∃ e', handler e = .raise e')
    (hw : P w) (hP : Stable service P) (hE : Stable service E) (hR : ∀ a, Stable service (R a))
    (hok : ∀ v a db, Lawful w₀ v → P v → f v.moment v.db = .ok (a, db) →
      Lawful w₀ (v.commit n db) ∧ R a (v.commit n db) ∧
        ∀ m, HasRecoveryPlan m v.db → HasRecoveryPlan m db)
    (herr : ∀ v e, Lawful w₀ v → P v → f v.moment v.db = .error e → E v) :
    Safe (contract service w₀) (tryCatch (Py.transaction n f ev) handler) h w (Leaves R E) := by
  refine Safe.tryCatch (safe_transaction hw hP hE hR hok herr) (fun _ _ _ h => h)
    fun h' e v hv => ?_
  obtain ⟨e', he⟩ := hraise e
  rw [he]
  exact Safe.raise fun u hu _ => hE v u hv hu

/-- The rest of the program runs on what a call returns. -/
lemma safe_bind {β : Type} {p : Py α} {k : α → Py β} {Q : β → World → Prop}
    (hp : Safe (contract service w₀) p h w (Leaves R E))
    (hk : ∀ h' a v, R a v → Safe (contract service w₀) (k a) h' v (Leaves Q E)) :
    Safe (contract service w₀) (p >>= k) h w (Leaves Q E) :=
  Safe.bind hp (fun h' a v => hk h' a v) fun _ _ _ hv => hv

lemma safe_clock_bind {β : Type} {k : Datetime → Py β} {Q : β → World → Prop} (hw : P w)
    (hP : Stable service P)
    (hk : ∀ h' now v, P v → Safe (contract service w₀) (k now) h' v (Leaves Q E)) :
    Safe (contract service w₀) (Py.clock >>= k) h w (Leaves Q E) :=
  Py.safe_clock_bind fun v hrely _ _ => ⟨fun _ => id, hk _ _ v (hP _ _ hw hrely)⟩

lemma refused_raises (e : PyError) : ∃ e', (match e with
    | .keyError text => throw (.keyError text)
    | .valueError text => throw (.valueError text)
    | _ => throw (.recoveryPersistenceError message) : Py α) = .raise e' := by
  cases e <;> exact ⟨_, rfl⟩

/-- A read changes nothing. -/
lemma safe_asked {g : Moment → Database → Except PyError α} (hw : P w) (hP : Stable service P)
    (hE : Stable service E) (hR : ∀ a, Stable service (R a))
    (hok : ∀ v a, Lawful w₀ v → P v → g v.moment v.db = .ok a → R a v) (herr : ∀ v, P v → E v) :
    Safe (contract service w₀) (RecoveryService.persistedOrRefused message (Py.query g)) h w
      (Leaves R E) := by
  unfold Py.query Py.session
  refine safe_caught refused_raises hw hP hE hR (fun v a db hlawful hv hf => ?_)
    fun v _ _ hv _ => herr v hv
  obtain ⟨_, hg, heq⟩ := Py.map_eq_ok.mp hf
  cases heq
  exact ⟨hlawful, hok v a hlawful hv hg, fun _ => id⟩

lemma safe_getIncident (hw : Resting w₀ incidentId w) :
    Safe (contract service w₀) (RecoveryService.getIncident incidentId) h w
      (Leaves (fun incident v => incident.id = incidentId ∧ Resting w₀ incidentId v ∧
          (incident.recoveryMissionId.any (· ≠ "") = true ∨ Unplanned w₀ v ∨ Out incidentId v.db))
        (Resting w₀ incidentId)) := by
  refine safe_asked hw stable_resting stable_resting
    (fun _ => (Stable.const _).and (stable_resting.and ((Stable.const _).or
      (stable_unplanned.or stable_out)))) (fun v incident hlawful hresting hget => ?_) fun _ hv => hv
  rw [getIncidentTx_eq_ok] at hget
  refine ⟨Table.key_of_get? hget, hresting, ?_⟩
  by_cases hplanned : ∃ m, Planned w₀ m v
  · obtain ⟨found, hfound, hmission | hout⟩ := hresting hplanned
    · obtain rfl := Option.some.inj (hget.symm.trans hfound)
      obtain ⟨missionId, hmission⟩ := Option.ne_none_iff_exists'.mp hmission
      have hnamed := hlawful.named incident (Table.mem_of_get? hget)
      rw [hmission] at hnamed ⊢
      exact .inl (by simpa using hnamed)
    · exact .inr (.inr ⟨found, hfound, hout⟩)
  · exact .inr (.inl (not_exists.mp hplanned))

lemma safe_markRecoveryPending (hw : Unplanned w₀ w ∨ Out incidentId w.db)
    (hresting : Resting w₀ incidentId w) :
    Safe (contract service w₀) (RecoveryService.markRecoveryPending incidentId) h w
      (Leaves (fun _ v => Unplanned w₀ v ∧ Held incidentId v.db) (Resting w₀ incidentId)) := by
  have hstable : Stable service fun w =>
      (Unplanned w₀ w ∨ Out incidentId w.db) ∧ Resting w₀ incidentId w :=
    (stable_unplanned.or stable_out).and stable_resting
  refine safe_clock_bind ⟨hw, hresting⟩ hstable fun h' now v hv => ?_
  refine safe_caught refused_raises hv hstable stable_resting
    (fun _ => stable_unplanned.and stable_held) (fun v incident db hlawful hv hf => ?_)
    fun v e _ hv _ => hv.2
  have heffect : Effect service none now v.db db := effect_markRecoveryPendingTx hf
  have he : Elsewhere service v (v.commit 0 db) := elsewhere_effect heffect 0
  simp only [RecoveryService.markRecoveryPendingTx, bind_eq_ok, raiseIf_eq_ok,
    getIncidentTx_eq_ok] at hf
  obtain ⟨old, hold, -, -, -, hstate, hf⟩ := hf
  have hunplanned : Unplanned w₀ v := by
    refine hv.1.resolve_right ?_
    rintro ⟨found, hfound, hout⟩
    obtain rfl := Option.some.inj (hold.symm.trans hfound)
    exact hout (not_not.mp hstate)
  refine ⟨lawful_elsewhere hlawful he, ⟨stable_unplanned _ _ hunplanned he, ?_⟩,
    fun m => (he.plans m).mpr⟩
  cases hf
  have hid : old.id = incidentId := Table.key_of_get? hold
  let pending : RecoveryIncident := { old with state := .recoveryPending, lastObservedAt := now }
  have hself : (v.db.incidents.set pending).get? (key pending) = some pending :=
    Table.get?_set_self (hid.symm ▸ hold)
  rw [key_recoveryIncident, show pending.id = incidentId from hid] at hself
  exact ⟨pending, hself, .inl rfl⟩

lemma safe_canRecover (hw : Unplanned w₀ w ∧ Held incidentId w.db) :
    Safe (contract service w₀) (service.canRecover incidentId) h w
      (Leaves (fun _ v => Unplanned w₀ v ∧ Held incidentId v.db) (Resting w₀ incidentId)) := by
  have hstable : Stable service fun w => Unplanned w₀ w ∧ Held incidentId w.db :=
    stable_unplanned.and stable_held
  refine safe_clock_bind hw hstable fun h' now v hv => ?_
  exact safe_asked hv hstable stable_resting (fun _ => hstable) (fun _ _ _ hv _ => hv)
    fun _ hv => hv.1.resting

lemma safe_escalate {reason : String} (hreason : reason ≠ "") (hw : Unplanned w₀ w) :
    Safe (contract service w₀) (RecoveryService.escalate incidentId reason) h w
      (Leaves (fun _ => Resting w₀ incidentId) (Resting w₀ incidentId)) := by
  rw [RecoveryService.escalate, if_neg hreason]
  refine safe_clock_bind hw stable_unplanned fun h' now v hv => ?_
  refine safe_caught refused_raises hv stable_unplanned stable_resting (fun _ => stable_resting)
    (fun v incident db hlawful hv hf => ?_) fun v e _ hv _ => hv.resting
  have he : Elsewhere service v (v.commit 0 db) := elsewhere_effect (effect_escalateTx hf) 0
  exact ⟨lawful_elsewhere hlawful he, (stable_unplanned _ _ hv he).resting,
    fun m => (he.plans m).mpr⟩

lemma createMissionTx_frame {missions : MissionService}
    {title description ownerAgent source : String} {priority : MissionPriority} {risk : MissionRisk}
    {objectives dependencies : Option (List Json)} {xpReward : ℤ} {moment : Moment}
    {mission : Mission}
    (hf : missions.createMissionTx title description ownerAgent source priority risk objectives
      dependencies xpReward moment db = .ok (mission, db')) :
    mission.id = moment.ids 0 ∧ db'.steps = db.steps ∧ db'.incidents = db.incidents := by
  unfold MissionService.createMissionTx at hf
  simp only at hf
  split at hf
  · cases hf
  · cases hf
    exact ⟨rfl, MissionService.addToLedger_steps .., MissionService.addToLedger_incidents ..⟩

lemma safe_createMission {missions : MissionService} (hids : ∀ n, w₀.uuids n ≠ "")
    (title description ownerAgent source : String) (priority : MissionPriority) (risk : MissionRisk)
    (objectives dependencies : Option (List Json)) (xpReward : ℤ)
    (hw : Unplanned w₀ w ∧ Held incidentId w.db) :
    Safe (contract service w₀) (missions.createMission title description ownerAgent source priority
      risk objectives dependencies xpReward) h w
      (Leaves (fun mission v => mission.id ≠ "" ∧ Unplanned w₀ v ∧ Held incidentId v.db)
        (Resting w₀ incidentId)) := by
  have hstable : Stable service fun w => Unplanned w₀ w ∧ Held incidentId w.db :=
    stable_unplanned.and stable_held
  refine safe_transaction hw hstable stable_resting (fun _ => (Stable.const _).and hstable)
    (fun v mission db hlawful hv hf => ?_) fun v e _ hv _ => hv.1.resting
  obtain ⟨hid, hsteps, hincidents⟩ := createMissionTx_frame hf
  have he : Elsewhere service v (v.commit 1 db) :=
    ⟨by rw [World.commit_db, hincidents], fun m => by
      rw [World.commit_db, HasRecoveryPlan, HasRecoveryPlan, hsteps], rfl⟩
  refine ⟨lawful_elsewhere hlawful he, ⟨?_, hstable _ _ hv he⟩, fun m => (he.plans m).mpr⟩
  have hnonempty := hids v.drawn
  rw [← hlawful.uuids] at hnonempty
  rwa [hid]

/-- A plan of recovery is one step of its mission. -/
lemma hasRecoveryPlan_createPlanTx {missionId component : String} {moment : Moment}
    {planned : List MissionStep}
    (hf : MissionService.createPlanTx missionId (RecoveryObserver.recoveryPlan component) moment db =
      .ok (planned, db')) : db'.incidents = db.incidents ∧
        ∀ m, HasRecoveryPlan m db' ↔ HasRecoveryPlan m db ∨ m = missionId := by
  simp only [MissionService.createPlanTx, bind_eq_ok, raiseIf_eq_ok,
    MissionService.getMissionTx_eq_ok] at hf
  obtain ⟨mission, hget, -, -, steps, hmap, hf⟩ := hf
  have hid : mission.id = missionId := Table.key_of_get? hget
  have hone : steps = [recoveryStep (moment.ids 0) missionId component] := by
    rw [hid] at hmap
    exact (Except.ok.inj hmap).symm
  split at hf
  · cases hf
  · next table hinsert =>
    cases hf
    rw [hone] at hinsert
    refine ⟨rfl, fun m => ?_⟩
    simp only [HasRecoveryPlan, Table.insertAll?_rows hinsert, List.mem_append,
      List.mem_singleton]
    constructor
    · rintro ⟨step, hstep | rfl, hm, htool⟩
      · exact .inl ⟨step, hstep, hm, htool⟩
      · exact .inr hm.symm
    · rintro (⟨step, hstep, hm⟩ | rfl)
      · exact ⟨step, .inl hstep, hm⟩
      · exact ⟨_, .inr rfl, rfl, rfl⟩

lemma safe_createPlan {missionId component : String}
    (hw : Unplanned w₀ w ∧ Held incidentId w.db) :
    Safe (contract service w₀)
      (MissionService.createPlan missionId (RecoveryObserver.recoveryPlan component)) h w
      (Leaves (fun _ v => Held incidentId v.db) (Resting w₀ incidentId)) := by
  have hstable : Stable service fun w => Unplanned w₀ w ∧ Held incidentId w.db :=
    stable_unplanned.and stable_held
  change Safe _ (Py.transaction 1
    (MissionService.createPlanTx missionId (RecoveryObserver.recoveryPlan component))) _ _ _
  refine safe_transaction hw hstable stable_resting (fun _ => stable_held)
    (fun v planned db hlawful hv hf => ?_) fun v e _ hv _ => hv.1.resting
  obtain ⟨hincidents, hplans⟩ := hasRecoveryPlan_createPlanTx hf
  have honly {m : String} (hm : Planned w₀ m (v.commit 1 db)) : m = missionId :=
    ((hplans m).mp hm.2).resolve_left fun hold => hv.1 m ⟨hm.1, hold⟩
  refine ⟨⟨hlawful.sound.congr hincidents, ?_, hlawful.uuids, fun m m' hm hm' => ?_⟩, ?_,
    fun m hm => (hplans m).mpr (.inl hm)⟩
  · rw [World.commit_db, hincidents]
    exact hlawful.named
  · rw [honly hm, honly hm']
  · rw [World.commit_db]
    exact hv.2.keeps (by rw [hincidents]; exact .refl Onward.refl _)

/-- Whether or not the mission is attached, the incident gets no further one. -/
lemma safe_attachMission {missionId : String} (hmission : missionId ≠ "")
    (hw : Held incidentId w.db) :
    Safe (contract service w₀) (RecoveryService.attachMission incidentId missionId) h w
      (Leaves (fun _ => Resting w₀ incidentId) (Resting w₀ incidentId)) := by
  rw [RecoveryService.attachMission, if_neg hmission]
  refine safe_caught (P := fun w => Held incidentId w.db) refused_raises hw stable_held
    stable_resting (fun _ => stable_resting) (fun v incident db hlawful hv hf => ?_)
    fun v e hlawful hv hf _ => ?_
  · have heffect : Effect service none 0 v.db db := effect_attachMissionTx hmission hf
    have he : Elsewhere service v (v.commit 0 db) := elsewhere_effect heffect 0
    refine ⟨lawful_elsewhere hlawful he, fun _ => ?_, fun m => (he.plans m).mpr⟩
    simp only [RecoveryService.attachMissionTx, bind_eq_ok, getIncidentTx_eq_ok] at hf
    obtain ⟨old, hold, hf⟩ := hf
    split_ifs at hf with hfree hsame
    · cases hf
      have hid : old.id = incidentId := Table.key_of_get? hold
      let attached : RecoveryIncident := { old with recoveryMissionId := some missionId }
      have hself : (v.db.incidents.set attached).get? (key attached) = some attached :=
        Table.get?_set_self (hid.symm ▸ hold)
      rw [key_recoveryIncident, show attached.id = incidentId from hid] at hself
      exact ⟨attached, hself, .inl (by simp [attached])⟩
    · cases hf
      exact ⟨_, hold, .inl (by simp [hsame])⟩
  · obtain ⟨old, hold, hheld⟩ := hv
    refine ⟨old, hold, ?_⟩
    rcases hheld with hpending | hshut
    · left
      intro hnone
      have hactive := (hlawful.sound.active old (Table.mem_of_get? hold)).mpr
        (by simp [Incidents.Terminal, hpending])
      simp only [RecoveryService.attachMissionTx, getIncidentTx_eq_ok.mpr hold, bind,
        Except.bind] at hf
      rw [if_pos ⟨hactive, hpending, hnone⟩] at hf
      cases hf
    · exact hshut

lemma safe_openMission {observer : RecoveryObserver} {component : String}
    (hids : ∀ n, w₀.uuids n ≠ "") (hw : Unplanned w₀ w ∧ Held incidentId w.db) :
    Safe (contract service w₀) (observer.openMission incidentId component) h w
      (Leaves (fun _ => Resting w₀ incidentId) (Resting w₀ incidentId)) := by
  refine safe_bind (safe_createMission hids _ _ _ _ _ _ _ _ _ hw) fun h' mission v hv => ?_
  refine safe_bind (safe_createPlan hv.2) fun h' _ v hheld => ?_
  refine safe_bind (safe_attachMission hv.1 hheld) fun h' _ v hv => ?_
  exact Safe.ret fun u hu _ => stable_resting _ _ hv hu

/-- A call that begins at rest ends at rest. -/
lemma safe_createRecoveryMission {observer : RecoveryObserver} (hids : ∀ n, w₀.uuids n ≠ "")
    (c : Call) (hw : Resting w₀ incidentId w) :
    Safe (contract observer.recovery w₀) ((system observer incidentId).code c) h w
      (Leaves (fun _ => Resting w₀ incidentId) (Resting w₀ incidentId)) := by
  have hret {h : List Event} {v : World} (a : Option Mission) (hv : Resting w₀ incidentId v) :
      Safe (contract observer.recovery w₀) (.ret a : Py (Option Mission)) h v
        (Leaves (fun _ => Resting w₀ incidentId) (Resting w₀ incidentId)) :=
    Safe.ret fun u hu _ => stable_resting _ _ hv hu
  refine safe_bind (safe_getIncident hw) fun h' incident v ⟨hid, hv, hfree⟩ => ?_
  by_cases hmission : incident.recoveryMissionId.any (· ≠ "") = true
  · rw [if_pos hmission]
    exact hret none hv
  · rw [if_neg hmission]
    by_cases hidle : (observer.decide incident c.readiness c.serviceState).action ≠ .recover ∨
        c.observeOnly = true
    · rw [if_pos hidle]
      exact hret none hv
    · rw [if_neg hidle, hid]
      refine safe_bind (safe_markRecoveryPending (hfree.resolve_left hmission) hv)
        fun h' _ v hv => ?_
      refine safe_bind (safe_canRecover hv) fun h' allowance v hv => ?_
      split_ifs
      · refine safe_bind (safe_escalate (by decide) hv.1) fun h' _ v hv => ?_
        exact hret none hv
      · exact hret none hv.1.resting
      · split
        · exact hret none hv.1.resting
        · next component _ =>
          refine safe_bind (safe_openMission hids hv) fun h' mission v hv => ?_
          exact hret (some mission) hv

end Calls

/-! ### Runs -/

/-- A program that begins with a read. -/
lemma readsFirst_query {α β : Type} (g : Moment → Database → Except PyError α)
    (handler : PyError → Py α) (k : α → Py β) :
    Pool.ReadsFirst (tryCatch (Py.query g) handler >>= k) := by
  intro w
  cases hg : g w.moment w.db <;> simp only [hg, Except.map, World.commit_self]

lemma sequential (observer : RecoveryObserver) (incidentId : String)
    (hids : ∀ n, w₀.uuids n ≠ "") : Pool.Sequential (system observer incidentId)
      (contract observer.recovery w₀) (Resting w₀ incidentId) where
  env _ _ hlawful he := ⟨lawful_elsewhere hlawful he, he⟩
  stable _ _ hw he := stable_resting _ _ hw he
  cond _ _ _ _ := trivial
  reads c := readsFirst_query _ _ _
  code c w _ hw := (safe_createRecoveryMission hids c hw).mono fun _ r _ hleft => by
    cases r <;> exact hleft

/-- Where calls do not overlap, at most one of their missions is ever one that a worker can
execute. -/
theorem oneRunnable {observer : RecoveryObserver} {incidentId : String} {w₀ : World}
    {p q : OpeningPool} (hw : Reachable observer.recovery w₀) (hids : ∀ n, w₀.uuids n ≠ "")
    (hp : Pool.Run (system observer incidentId) (fun _ _ r => Pool.Alone r) (Pool.init w₀) p)
    (hq : Pool.Run (system observer incidentId) (fun _ _ r => Pool.Alone r) p q) :
    ∀ m m', Planned w₀ m p.state → Runnable m p.state.db → Planned w₀ m' q.state →
      Runnable m' q.state.db → m = m' := by
  have hS := sequential observer incidentId hids
  have hinit : Pool.InTurn (system observer incidentId) (contract observer.recovery w₀)
      (Resting w₀ incidentId) (Pool.init w₀) := by
    refine Pool.inTurn_init ⟨Incidents.sound_of_reachable hw, Incidents.missionId_of_reachable hw,
      rfl, fun m m' hm _ => absurd hm.2 hm.1⟩ fun ⟨m, hm⟩ => absurd hm.2 hm.1
  have hkept : Pool.InTurn (system observer incidentId) (contract observer.recovery w₀)
      (Resting w₀ incidentId) q ∧ ∀ m, HasRecoveryPlan m p.state.db →
        HasRecoveryPlan m q.state.db := by
    refine hq.invariant (P := fun q => Pool.InTurn (system observer incidentId)
      (contract observer.recovery w₀) (Resting w₀ incidentId) q ∧
        ∀ m, HasRecoveryPlan m p.state.db → HasRecoveryPlan m q.state.db)
      ⟨hp.inTurn hS hinit, fun _ => id⟩ fun q l r hq hs hok => ?_
    obtain ⟨hturn, hsame | henv | ⟨h, e, hguar⟩⟩ := hq.1.step hS hs hok
    · exact ⟨hturn, fun m hm => by rw [hsame]; exact hq.2 m hm⟩
    · exact ⟨hturn, fun m hm => (henv.plans m).mpr (hq.2 m hm)⟩
    · exact ⟨hturn, fun m hm => hguar m (hq.2 m hm)⟩
  intro m m' hm _ hm' _
  exact hkept.1.inv.unique m m' ⟨hm.1, hkept.2 m hm.2⟩ hm'

/-! ### Two calls -/

/-- The MCP server is down, and DripVid not ready. -/
def mcpDown : Call where
  readiness := [("ok", .bool false)]
  serviceState := some "inactive"
  observeOnly := false

/-- The calls act in the order of the list, on the incident of the MCP server. -/
def played (ts : List ℕ) : OpeningPool :=
  Pool.play (system Agreement.defaultObserver "0") (Pool.init Agreement.mcpFailing)
    (.spawn mcpDown :: .spawn mcpDown :: ts.map .act)

/-- Whether a worker can execute the recovery mission. -/
def isRunnable (m : String) (db : Database) : Bool :=
  (db.missions.get? m).any (·.status = .queued) &&
    db.steps.rows.any fun step => step.missionId = m && step.toolName = "service.recover"

lemma runnable_of_isRunnable {m : String} {db : Database} (h : isRunnable m db = true) :
    Runnable m db := by
  rw [isRunnable, Bool.and_eq_true] at h
  cases hget : db.missions.get? m with
  | none =>
    rw [hget] at h
    cases h.1
  | some mission =>
    rw [hget, Option.any_some] at h
    obtain ⟨step, hmem, hstep⟩ := List.any_eq_true.mp h.2
    simp only [Bool.and_eq_true, decide_eq_true_eq] at hstep
    exact ⟨mission, hget, of_decide_eq_true h.1, step, hmem, hstep⟩

lemma unplanned_mcpFailing (m : String) : ¬HasRecoveryPlan m Agreement.mcpFailing.db := by
  have hsteps : Agreement.mcpFailing.db.steps.rows = [] := by decide
  rintro ⟨step, hmem, -⟩
  rw [hsteps] at hmem
  cases hmem

lemma uuids_mcpFailing (n : ℕ) : Agreement.mcpFailing.uuids n ≠ "" := by
  intro h
  have hempty := congrArg String.length h
  have huuids : Agreement.mcpFailing.uuids = fun n => toString n := rfl
  simp [huuids, Nat.toString_eq_repr] at hempty

/-- Two calls have planned a recovery each before the first of them attaches its mission. The
other one raises, and leaves a mission behind that a worker can execute. -/
theorem not_oneRunnable_two_calls : ¬OneRunnable fun _ _ _ => True := by
  intro hone
  let ts := List.replicate 7 0 ++ List.replicate 7 1 ++ [0, 1]
  have hr : Pool.Run (system Agreement.defaultObserver "0") (fun _ _ _ => True)
      (Pool.init Agreement.mcpFailing) (played ts) := by
    refine Pool.run_play (Pool.admissible_of_env (fun _ _ _ => trivial) fun f hf => ?_)
    simp [ts] at hf
  have hfirst : isRunnable "3" (played ts).state.db = true := by decide
  have hsecond : isRunnable "5" (played ts).state.db = true := by decide
  have hrunnable := runnable_of_isRunnable hfirst
  have hrunnable' := runnable_of_isRunnable hsecond
  have heq := hone Agreement.reachable_mcpFailing uuids_mcpFailing hr (.refl _) "3" "5"
    ⟨unplanned_mcpFailing _, hrunnable.choose_spec.2.2⟩ hrunnable
    ⟨unplanned_mcpFailing _, hrunnable'.choose_spec.2.2⟩ hrunnable'
  exact absurd heq (by decide)

/-- One call after the other: the second one finds the mission of the first. -/
theorem oneRunnable_in_turn :
    let after := played (List.replicate 8 0 ++ List.replicate 8 1)
    Runnable "3" after.state.db ∧ ∀ m, Planned Agreement.mcpFailing m after.state →
      Runnable m after.state.db → m = "3" := by
  intro after
  have hr : Pool.Run (system Agreement.defaultObserver "0") (fun _ _ r => Pool.Alone r)
      (Pool.init Agreement.mcpFailing) after := by
    refine Pool.run_play (Pool.admissible_of_passes (T := Pool.isAlone)
      (fun _ => Pool.alone_of_isAlone) (fun f hf => ?_) (by decide))
    simp at hf
  have hfirst : isRunnable "3" after.state.db = true := by decide
  have hrunnable := runnable_of_isRunnable hfirst
  refine ⟨hrunnable, fun m hm hm' => ?_⟩
  exact oneRunnable Agreement.reachable_mcpFailing uuids_mcpFailing hr (.refl _) m "3" hm hm'
    ⟨unplanned_mcpFailing _, hrunnable.choose_spec.2.2⟩ hrunnable

end Openings
end AiHq
