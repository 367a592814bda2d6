import AiHq.Recovery.Cycle
import AiHq.Recovery.Incidents

/-!
# What handling a component does

The calls that a cycle makes for one component, run without interference: what each returns, and
that it leaves the incidents of all other components alone.
-/

namespace AiHq

open Concurrent Relational Recovery

namespace Handling

/-- No identifier that is still to be drawn has been drawn before or is in use. -/
structure Fresh (w : World) : Prop where
  mission : ∀ n, w.drawn ≤ n → w.db.missions.get? (w.uuids n) = none
  step : ∀ n, w.drawn ≤ n → w.db.steps.get? (w.uuids n) = none
  plan : ∀ n, w.drawn ≤ n → ∀ step ∈ w.db.steps.rows, step.missionId ≠ w.uuids n
  incident : ∀ n, w.drawn ≤ n → w.db.incidents.get? (w.uuids n) = none
  linked : ∀ n, w.drawn ≤ n → ∀ incident ∈ w.db.incidents.rows,
    incident.recoveryMissionId ≠ some (w.uuids n)
  attempt : ∀ n, w.drawn ≤ n → w.db.attempts.get? (w.uuids n) = none
  distinct : ∀ m n, w.drawn ≤ m → w.drawn ≤ n → w.uuids m = w.uuids n → m = n
  nonempty : ∀ n, w.drawn ≤ n → w.uuids n ≠ ""

/-- What may happen while components are handled: operations of the recovery service that touch
no incident of another component and record no attempt. Missions and steps are only added. -/
structure Moves (service : RecoveryService) (touched : List String) (w w' : World) : Prop where
  run : Relation.ReflTransGen (Next service) w w'
  now : w'.now = w.now
  attempts : w'.db.attempts = w.db.attempts
  missions : ∀ id mission, w.db.missions.get? id = some mission →
    w'.db.missions.get? id = some mission
  steps : ∀ step ∈ w.db.steps.rows, step ∈ w'.db.steps.rows
  others : ∀ id incident, incident.component ∉ touched →
    (w'.db.incidents.get? id = some incident ↔ w.db.incidents.get? id = some incident)
  fresh : Fresh w → Fresh w'

variable {service : RecoveryService} {touched : List String} {component : String}
  {w w' w'' : World}

lemma Moves.refl (w : World) : Moves service touched w w :=
  ⟨.refl, rfl, rfl, fun _ _ h => h, fun _ h => h, fun _ _ _ => Iff.rfl, id⟩

lemma Moves.trans (h : Moves service touched w w') (h' : Moves service touched w' w'') :
    Moves service touched w w'' :=
  ⟨h.run.trans h'.run, h'.now.trans h.now, h'.attempts.trans h.attempts,
    fun id mission hm => h'.missions id mission (h.missions id mission hm),
    fun step hs => h'.steps step (h.steps step hs),
    fun id incident hne => (h'.others id incident hne).trans (h.others id incident hne),
    fun hw => h'.fresh (h.fresh hw)⟩

lemma Moves.mono {touched' : List String} (h : Moves service touched w w')
    (hle : ∀ c ∈ touched, c ∈ touched') : Moves service touched' w w' :=
  { h with others := fun id incident hne => h.others id incident fun hmem => hne (hle _ hmem) }

/-! ### Writing to an incident -/

section Saving

variable {α : Type} {id message : String} {old new : RecoveryIncident} {n : ℕ}
  {f : Moment → Database → Except PyError (RecoveryIncident × Database)}

/-- The row of the incident has been replaced. -/
structure Saved (service : RecoveryService) (old new : RecoveryIncident) (w : World)
    (r : Except PyError RecoveryIncident) (w' : World) : Prop where
  result : r = .ok new
  saved : w'.db.incidents.get? old.id = some new
  moves : Moves service [old.component] w w'

lemma fresh_set (hw : Fresh w) (n : ℕ)
    (hlinked : ∀ k, w.drawn + n ≤ k → new.recoveryMissionId ≠ some (w.uuids k)) :
    Fresh (w.commit n { w.db with incidents := w.db.incidents.set new }) := by
  have hle : ∀ k, w.drawn + n ≤ k → w.drawn ≤ k := fun k hk => (Nat.le_add_right _ _).trans hk
  refine ⟨fun k hk => hw.mission k (hle k hk), fun k hk => hw.step k (hle k hk),
    fun k hk => hw.plan k (hle k hk), fun k hk => ?_, fun k hk r hr => ?_,
    fun k hk => hw.attempt k (hle k hk),
    fun m k hm hk => hw.distinct m k (hle m hm) (hle k hk), fun k hk => hw.nonempty k (hle k hk)⟩
  · rw [Option.eq_none_iff_forall_ne_some]
    intro r hr
    obtain ⟨r', hr', hkey⟩ := Table.exists_of_keys (Table.map_key_set w.db.incidents new).symm
      (Table.mem_of_get? hr)
    have hget := Table.get?_of_mem hr'
    rw [hkey, Table.key_of_get? hr] at hget
    cases (hw.incident k (hle k hk)).symm.trans hget
  · rcases Table.mem_set.mp hr with ⟨rfl, -⟩ | ⟨hr, -⟩
    · exact hlinked k hk
    · exact hw.linked k (hle k hk) r hr

lemma moves_set (hget : w.db.incidents.get? old.id = some old) (hid : new.id = old.id)
    (hcomponent : new.component = old.component)
    (hlinked : Fresh w → ∀ k, w.drawn + n ≤ k → new.recoveryMissionId ≠ some (w.uuids k))
    (hnext : Next service w (w.commit n { w.db with incidents := w.db.incidents.set new })) :
    Moves service [old.component] w
      (w.commit n { w.db with incidents := w.db.incidents.set new }) := by
  refine ⟨.single hnext, rfl, rfl, fun _ _ h => h, fun _ h => h, fun id incident hne => ?_,
    fun hw => fresh_set hw n (hlinked hw)⟩
  have hold : w.db.incidents.get? (key new) = some old := by rw [key_recoveryIncident, hid, hget]
  rw [World.commit_db]
  by_cases hkey : id = key new
  · subst hkey
    rw [Table.get?_set_self hold, hold]
    constructor
    · intro h
      exact absurd (List.mem_singleton.mpr (Option.some.inj h ▸ hcomponent)) hne
    · intro h
      exact absurd (List.mem_singleton.mpr
          (congrArg RecoveryIncident.component (Option.some.inj h).symm)) hne
  · rw [Table.get?_set_ne hkey]

/-- A transaction that replaces the row of an incident. -/
lemma ends_saved {ev : Except PyError RecoveryIncident → Event}
    (hget : w.db.incidents.get? old.id = some old) (hid : new.id = old.id)
    (hcomponent : new.component = old.component)
    (hlinked : Fresh w → ∀ k, w.drawn + n ≤ k → new.recoveryMissionId ≠ some (w.uuids k))
    (hf : f w.moment w.db = .ok (new, { w.db with incidents := w.db.incidents.set new }))
    (hrun : ∀ w' r, (RecoveryService.persistedOrRefused message (.transaction n f ev)).run w =
      (r, w') → Next service w w') :
    Ends (RecoveryService.persistedOrRefused message (.transaction n f ev)) w
      (Saved service old new w) := by
  have hok := (run_persistedOrRefused (n := n) message f ev w).1 _ _ hf
  have hold : w.db.incidents.get? (key new) = some old := by rw [key_recoveryIncident, hid, hget]
  have hself := Table.get?_set_self (r := new) hold
  rw [key_recoveryIncident, hid] at hself
  unfold Ends
  rw [hok]
  exact ⟨rfl, hself, moves_set hget hid hcomponent hlinked (hrun _ _ hok)⟩

end Saving

/-! ### The calls -/

section Calls

open RecoveryService

variable {id : String} {old : RecoveryIncident}

lemma next_of_run {α : Type} {p : Py α} {r : Except PyError α} (op : Operation)
    (hp : op.code service = (do let _ ← p : Py Unit)) (hrun : p.run w = (r, w')) :
    Next service w w' := by
  have hnext : Next service w ((op.code service).run w).2 := .called w op
  rwa [hp, run_discard, hrun] at hnext

lemma ends_clock {α : Type} {k : Datetime → Py α} {Q : Except PyError α → World → Prop}
    (h : Ends (k w.now) w Q) : Ends (Py.clock >>= k) w Q := by
  unfold Ends at h ⊢
  rwa [Py.run_clock_bind]

lemma run_persistedOrRefused_query {α : Type} {message : String}
    {g : Moment → Database → Except PyError α} {a : α} (hg : g w.moment w.db = .ok a) :
    (persistedOrRefused message (.query g)).run w = (.ok a, w) := by
  rw [persistedOrRefused, Prog.run_tryCatch, Py.run_query, hg]

lemma ends_getIncident (hget : w.db.incidents.get? id = some old) :
    Ends (getIncident id) w fun r w' => w' = w ∧ r = .ok old := by
  have hg : getIncidentTx id w.db = .ok old := getIncidentTx_eq_ok.mpr hget
  unfold Ends getIncident
  rw [run_persistedOrRefused_query hg]
  exact ⟨rfl, rfl⟩

lemma ends_activeIncident {key : String} (hkey : activeKey component = .ok key) :
    Ends (activeIncident component) w fun r w' => w' = w ∧ r = .ok (withActiveKey key w.db) := by
  have hrun : (activeIncident component).run w = (.ok (withActiveKey key w.db), w) := by
    unfold activeIncident
    rw [hkey]
    exact (Prog.run_tryCatch ..).trans (by rw [Py.run_query])
  unfold Ends
  rw [hrun]
  exact ⟨rfl, rfl⟩

lemma ends_updateDiagnostics (service : RecoveryService) (diagnostics : Dict) (hget : w.db.incidents.get? old.id = some old)
    (hactive : old.activeKey ≠ none) :
    Ends (updateDiagnostics old.id diagnostics) w
      (Saved service old { old with
        diagnostics := boundedMapping (some diagnostics), lastObservedAt := w.now } w) := by
  refine ends_clock (ends_saved hget rfl rfl ?_ ?_ ?_)
  · exact fun hw k hk => hw.linked k hk old (Table.mem_of_get? hget)
  · simp only [updateDiagnosticsTx, bind_eq_ok, raiseIf_eq_ok, getIncidentTx_eq_ok]
    exact ⟨old, hget, (), hactive, rfl⟩
  · intro w' r hrun
    refine next_of_run (r := r) (.updateDiagnostics old.id diagnostics) rfl ?_
    rw [updateDiagnostics, Py.run_clock_bind]
    exact hrun

lemma ends_markRecoveryPending (service : RecoveryService) (hget : w.db.incidents.get? old.id = some old)
    (hactive : old.activeKey ≠ none) (hstate : old.state ∈ [.suspect, .diagnosing, .recoveryPending]) :
    Ends (markRecoveryPending old.id) w
      (Saved service old { old with state := .recoveryPending, lastObservedAt := w.now } w) := by
  refine ends_clock (ends_saved hget rfl rfl ?_ ?_ ?_)
  · exact fun hw k hk => hw.linked k hk old (Table.mem_of_get? hget)
  · simp only [markRecoveryPendingTx, bind_eq_ok, raiseIf_eq_ok, getIncidentTx_eq_ok]
    exact ⟨old, hget, (), hactive, (), not_not.mpr hstate, rfl⟩
  · intro w' r hrun
    refine next_of_run (r := r) (.markRecoveryPending old.id) rfl ?_
    rw [markRecoveryPending, Py.run_clock_bind]
    exact hrun

lemma ends_markRecoveryPending_refused (hget : w.db.incidents.get? id = some old)
    (hstate : old.state ∉ [.suspect, .diagnosing, .recoveryPending]) :
    Ends (markRecoveryPending id) w fun r w' => w' = w ∧ ∃ e, r = .error e := by
  refine ends_clock ?_
  have htx : ∃ e, markRecoveryPendingTx id w.now w.db = .error e := by
    simp only [markRecoveryPendingTx, getIncidentTx_eq_ok.mpr hget, raiseIf, bind, Except.bind]
    split_ifs
    · exact ⟨_, rfl⟩
    · exact ⟨_, rfl⟩
  obtain ⟨e, he⟩ := htx
  obtain ⟨e', hrun⟩ := (run_persistedOrRefused (n := 0) "failed to mark recovery pending"
    (fun _ => markRecoveryPendingTx id w.now) (fun _ => .silent) w).2 e he
  unfold Ends Py.session
  rw [hrun]
  exact ⟨rfl, e', rfl⟩

lemma ends_escalate (service : RecoveryService) {reason : String} (hreason : reason ≠ "") (diagnostics : Option Dict)
    (hget : w.db.incidents.get? old.id = some old) :
    Ends (escalate old.id reason diagnostics) w
      (Saved service old (Incidents.closedRow w.now old (.escalate old.id reason diagnostics)) w) := by
  unfold escalate
  rw [if_neg hreason]
  refine ends_clock (ends_saved hget rfl rfl ?_ ?_ ?_)
  · exact fun hw k hk => hw.linked k hk old (Table.mem_of_get? hget)
  · simp only [escalateTx, bind_eq_ok, getIncidentTx_eq_ok]
    exact ⟨old, hget, rfl⟩
  · intro w' r hrun
    refine next_of_run (r := r) (.escalate old.id reason diagnostics) rfl ?_
    rw [escalate, if_neg hreason, Py.run_clock_bind]
    exact hrun

lemma ends_resolve (service : RecoveryService) (verification : Option Dict) (hget : w.db.incidents.get? old.id = some old) :
    Ends (resolve old.id verification) w
      (Saved service old (Incidents.closedRow w.now old (.resolve old.id verification)) w) := by
  refine ends_clock (ends_saved hget rfl rfl ?_ ?_ ?_)
  · exact fun hw k hk => hw.linked k hk old (Table.mem_of_get? hget)
  · simp only [resolveTx, bind_eq_ok, getIncidentTx_eq_ok]
    exact ⟨old, hget, rfl⟩
  · intro w' r hrun
    refine next_of_run (r := r) (.resolve old.id verification) rfl ?_
    rw [resolve, Py.run_clock_bind]
    exact hrun

lemma ends_attachMission (service : RecoveryService) {missionId : String} (hmission : missionId ≠ "")
    (hget : w.db.incidents.get? old.id = some old) (hactive : old.activeKey ≠ none)
    (hstate : old.state = .recoveryPending) (hnone : old.recoveryMissionId = none)
    (hdrawn : ∀ k, w.drawn ≤ k → w.uuids k ≠ missionId) :
    Ends (attachMission old.id missionId) w
      (Saved service old { old with recoveryMissionId := some missionId } w) := by
  unfold attachMission
  rw [if_neg hmission]
  refine ends_saved hget rfl rfl ?_ ?_ ?_
  · exact fun _ k hk h => hdrawn k hk (Option.some.inj h).symm
  · simp only [attachMissionTx, bind_eq_ok, getIncidentTx_eq_ok]
    exact ⟨old, hget, by rw [if_pos ⟨hactive, hstate, hnone⟩]; rfl⟩
  · intro w' r hrun
    refine next_of_run (r := r) (.attachMission old.id missionId) rfl ?_
    rw [attachMission, if_neg hmission]
    exact hrun

lemma ends_canRecover {allowance : RecoveryAllowance}
    (htx : service.canRecoverTx id w.now w.db = .ok allowance) :
    Ends (service.canRecover id) w fun r w' => w' = w ∧ r = .ok allowance := by
  refine ends_clock ?_
  unfold Ends
  rw [run_persistedOrRefused_query htx]
  exact ⟨rfl, rfl⟩

/-- The row after a further failure has been observed. -/
def observedRow (service : RecoveryService) (now : Datetime) (diagnostics : Dict)
    (old : RecoveryIncident) : RecoveryIncident :=
  if now - old.lastObservedAt < seconds service.observationSeconds then old
  else { old with
    consecutiveFailures := old.consecutiveFailures + 1, lastFailureAt := now, lastObservedAt := now,
    diagnostics := if diagnostics.isEmpty then old.diagnostics else diagnostics,
    state := if old.state = .suspect ∧
        service.failureThreshold ≤ old.consecutiveFailures + 1 then .diagnosing
      else old.state }

lemma observedRow_frame (service : RecoveryService) (now : Datetime) (diagnostics : Dict) (old : RecoveryIncident) :
    (observedRow service now diagnostics old).id = old.id ∧
      (observedRow service now diagnostics old).component = old.component ∧
      (observedRow service now diagnostics old).activeKey = old.activeKey ∧
      (observedRow service now diagnostics old).recoveryMissionId = old.recoveryMissionId ∧
      (observedRow service now diagnostics old).target = old.target ∧
      (observedRow service now diagnostics old).lastRecoveryAttemptAt =
        old.lastRecoveryAttemptAt := by
  unfold observedRow
  split_ifs <;> exact ⟨rfl, rfl, rfl, rfl, rfl, rfl⟩

/-- An observation may find a suspect component to be failed for good. -/
lemma observedRow_pending (now : Datetime) (diagnostics : Dict) (old : RecoveryIncident) :
    (observedRow service now diagnostics old).state ∈ [.suspect, .diagnosing, .recoveryPending] ↔
      old.state ∈ [.suspect, .diagnosing, .recoveryPending] := by
  by_cases helapsed : now - old.lastObservedAt < seconds service.observationSeconds
  · rw [observedRow, if_pos helapsed]
  · rw [observedRow, if_neg helapsed]
    by_cases hthreshold :
      old.state = .suspect ∧ service.failureThreshold ≤ old.consecutiveFailures + 1
    · simp [hthreshold.1, hthreshold.2]
    · simp only [if_neg hthreshold]

lemma observedRow_escalated {now : Datetime} {diagnostics : Dict} {old : RecoveryIncident}
    (h : (observedRow service now diagnostics old).state = .escalated) :
    old.state = .escalated := by
  unfold observedRow at h
  by_cases helapsed : now - old.lastObservedAt < seconds service.observationSeconds
  · rwa [if_pos helapsed] at h
  · rw [if_neg helapsed] at h
    by_cases hthreshold :
      old.state = .suspect ∧ service.failureThreshold ≤ old.consecutiveFailures + 1
    · simp [hthreshold] at h
    · simpa only [if_neg hthreshold] using h

lemma run_persisted {α : Type} {n : ℕ} (message : String)
    (f : Moment → Database → Except PyError (α × Database)) (ev : Except PyError α → Event)
    (w : World) :
    (∀ a db, f w.moment w.db = .ok (a, db) →
      (persisted message (.transaction n f ev)).run w = (.ok a, w.commit n db)) ∧
    ∀ e, f w.moment w.db = .error e →
      ∃ e', (persisted message (.transaction n f ev)).run w = (.error e', w) :=
  run_caught (fun _ => ⟨_, rfl⟩) w

lemma fresh_commit (hw : Fresh w) (n : ℕ) : Fresh (w.commit n w.db) := by
  have hle : ∀ k, w.drawn + n ≤ k → w.drawn ≤ k := fun k hk => (Nat.le_add_right _ _).trans hk
  exact ⟨fun k hk => hw.mission k (hle k hk), fun k hk => hw.step k (hle k hk),
    fun k hk => hw.plan k (hle k hk), fun k hk => hw.incident k (hle k hk),
    fun k hk => hw.linked k (hle k hk), fun k hk => hw.attempt k (hle k hk),
    fun m k hm hk => hw.distinct m k (hle m hm) (hle k hk), fun k hk => hw.nonempty k (hle k hk)⟩

lemma ends_observeFailure {key : String} (diagnostics : Option Dict)
    (hkey : activeKey component = .ok key) (hold : withActiveKey key w.db = some old) :
    Ends (service.observeFailure component diagnostics) w
      (Saved service old (observedRow service w.now (boundedMapping diagnostics) old) w) := by
  obtain ⟨hget, -⟩ := get?_of_withActiveKey hold
  have hnext : ∀ r w', (service.observeFailure component diagnostics).run w = (r, w') →
      Next service w w' := fun r w' hrun =>
    next_of_run (r := r) (.observeFailure component diagnostics) rfl hrun
  have hrun : (service.observeFailure component diagnostics).run w =
      (persisted "failed to persist recovery failure" (.transaction 1
        (service.observeFailureTx component key (boundedMapping diagnostics) w.now))).run w := by
    unfold observeFailure
    rw [hkey]
    exact Py.run_clock_bind _ w
  have htx := (run_persisted (n := 1) "failed to persist recovery failure"
    (service.observeFailureTx component key (boundedMapping diagnostics) w.now)
    (fun _ => .silent) w).1
  unfold observeFailureTx at htx
  rw [hold] at htx
  unfold Ends observedRow
  by_cases helapsed : w.now - old.lastObservedAt < seconds service.observationSeconds
  · have hok := hrun.trans (htx old w.db (if_pos helapsed))
    rw [hok, if_pos helapsed]
    exact ⟨rfl, hget, .single (hnext _ _ hok), rfl, rfl, fun _ _ h => h, fun _ h => h,
      fun _ _ _ => Iff.rfl, fun hw => fresh_commit hw 1⟩
  · have hok := hrun.trans (htx _ _ (if_neg helapsed))
    rw [hok, if_neg helapsed]
    exact ⟨rfl, Table.get?_set_self hget,
      moves_set hget rfl rfl (fun hw k hk => hw.linked k ((Nat.le_add_right _ _).trans hk) old
        (Table.mem_of_get? hget)) (hnext _ _ hok)⟩

/-- A first failure opens an incident. -/
lemma ends_observeFailure_new {key : String} (hw : Fresh w) (diagnostics : Option Dict)
    (hkey : activeKey component = .ok key) (hnone : withActiveKey key w.db = none) :
    Ends (service.observeFailure component diagnostics) w fun r w' =>
      ∃ new, r = .ok new ∧ new.consecutiveFailures = 1 ∧ Moves service [component] w w' := by
  have hrun : (service.observeFailure component diagnostics).run w =
      (persisted "failed to persist recovery failure" (.transaction 1
        (service.observeFailureTx component key (boundedMapping diagnostics) w.now))).run w := by
    unfold observeFailure
    rw [hkey]
    exact Py.run_clock_bind _ w
  obtain ⟨incidents, hinsert⟩ := Table.exists_insert? (t := w.db.incidents)
    (r := ({ id := w.uuids w.drawn, activeKey := some key, target := "dripvid", component,
             state := .suspect, consecutiveFailures := 1, firstFailureAt := w.now,
             lastFailureAt := w.now, lastObservedAt := w.now,
             diagnostics := boundedMapping diagnostics, verification := [] } : RecoveryIncident))
    (hw.incident _ le_rfl)
  have htx := (run_persisted (n := 1) "failed to persist recovery failure"
    (service.observeFailureTx component key (boundedMapping diagnostics) w.now)
    (fun _ => .silent) w).1
  unfold observeFailureTx at htx
  simp only [hnone] at htx
  have hids : w.moment.ids 0 = w.uuids w.drawn := rfl
  rw [hids, hinsert] at htx
  have hok := hrun.trans (htx _ _ rfl)
  have hrows := (Table.insert?_eq_some hinsert).2
  have hle : ∀ k, w.drawn + 1 ≤ k → w.drawn ≤ k := fun k hk => (Nat.le_succ _).trans hk
  unfold Ends
  rw [hok]
  refine ⟨_, rfl, rfl, .single ?_, rfl, rfl, fun _ _ h => h, fun _ h => h,
    fun id incident hne => ?_, fun hw => ?_⟩
  · exact next_of_run (r := .ok _) (.observeFailure component diagnostics) rfl hok
  · rw [World.commit_db]
    by_cases hid : id = w.uuids w.drawn
    · rw [hid, hw.incident _ le_rfl]
      have hself := Table.get?_insert?_self hinsert
      rw [key_recoveryIncident] at hself
      rw [hself]
      constructor
      · intro h
        exact absurd (List.mem_singleton.mpr
          (congrArg RecoveryIncident.component (Option.some.inj h).symm)) hne
      · intro h
        cases h
    · rw [Table.get?_insert?_ne hinsert (by simpa using hid)]
  · have hnew : ∀ k, w.drawn + 1 ≤ k → w.uuids k ≠ w.uuids w.drawn := fun k hk h =>
      absurd (hw.distinct k w.drawn (hle k hk) le_rfl h) (Nat.ne_of_gt hk)
    refine ⟨fun k hk => hw.mission k (hle k hk), fun k hk => hw.step k (hle k hk),
      fun k hk => hw.plan k (hle k hk), fun k hk => ?_, fun k hk r hr => ?_,
      fun k hk => hw.attempt k (hle k hk),
      fun m k hm hk => hw.distinct m k (hle m hm) (hle k hk), fun k hk => hw.nonempty k (hle k hk)⟩
    · exact (Table.get?_insert?_ne hinsert (hnew k hk)).trans (hw.incident k (hle k hk))
    · rw [World.commit_db, hrows, List.mem_append, List.mem_singleton] at hr
      rcases hr with hr | rfl
      · exact hw.linked k (hle k hk) r hr
      · simp

lemma ends_resolveIfHealthy (service : RecoveryService) {key : String} (verification : Option Dict)
    (hkey : activeKey component = .ok key) (hold : withActiveKey key w.db = some old) :
    Ends (resolveIfHealthy component verification) w fun r w' =>
      (∃ new, r = .ok (some new)) ∧ Moves service [old.component] w w' := by
  obtain ⟨hget, -⟩ := get?_of_withActiveKey hold
  have hrun : (resolveIfHealthy component verification).run w =
      (persisted "failed to resolve recovery incident" (.session fun _ =>
        resolveIfHealthyTx key verification w.now)).run w := by
    unfold resolveIfHealthy
    rw [hkey]
    exact Py.run_clock_bind _ w
  have htx := (run_persisted (n := 0) "failed to resolve recovery incident"
    (fun _ => resolveIfHealthyTx key verification w.now) (fun _ => .silent) w).1
  unfold resolveIfHealthyTx at htx
  rw [hold] at htx
  have hok := hrun.trans (htx _ _ rfl)
  unfold Ends
  rw [hok]
  exact ⟨⟨_, rfl⟩, moves_set hget rfl rfl
    (fun hw k hk => hw.linked k hk old (Table.mem_of_get? hget))
    (next_of_run (r := .ok _) (.resolveIfHealthy component verification) rfl hok)⟩

end Calls

/-! ### Opening a mission -/

section Opening

open RecoveryObserver

variable {missions : MissionService}

/-- A fresh mission is queued, with no plan yet. -/
structure Created (service : RecoveryService) (component : String) (w : World) (mission : Mission)
    (w' : World) : Prop where
  fresh : Fresh w'
  moves : Moves service [component] w w'
  incidents : w'.db.incidents = w.db.incidents
  get : w'.db.missions.get? mission.id = some mission
  new : w.db.missions.get? mission.id = none
  drawn : ∀ k, w'.drawn ≤ k → w'.uuids k ≠ mission.id
  nonempty : mission.id ≠ ""
  source : mission.source = "automatic-recovery"
  queued : mission.status = .queued

/-- The tables after a mission has been inserted under a fresh identifier. -/
lemma created_commit (hw : Fresh w) {mission : Mission} {db : Database}
    (hid : mission.id = w.uuids w.drawn) (hsource : mission.source = "automatic-recovery")
    (hstatus : mission.status = .queued)
    (hinsert : w.db.missions.insert? mission = some db.missions)
    (hsteps : db.steps = w.db.steps) (hincidents : db.incidents = w.db.incidents)
    (hattempts : db.attempts = w.db.attempts) :
    Created service component w mission (w.commit 1 db) := by
  have hle : ∀ k, w.drawn + 1 ≤ k → w.drawn ≤ k := fun k hk => (Nat.le_succ _).trans hk
  have hnew : ∀ k, w.drawn + 1 ≤ k → w.uuids k ≠ mission.id := fun k hk h =>
    absurd (hw.distinct k w.drawn (hle k hk) le_rfl (h.trans hid)) (Nat.ne_of_gt hk)
  have hfresh : Fresh (w.commit 1 db) := by
    refine ⟨fun k hk => ?_, fun k hk => ?_, fun k hk => ?_, fun k hk => ?_, fun k hk => ?_,
      fun k hk => ?_, fun m k hm hk => hw.distinct m k (hle m hm) (hle k hk),
      fun k hk => hw.nonempty k (hle k hk)⟩
    · exact (Table.get?_insert?_ne hinsert (hnew k hk)).trans (hw.mission k (hle k hk))
    · rw [World.commit_db, hsteps]
      exact hw.step k (hle k hk)
    · rw [World.commit_db, hsteps]
      exact hw.plan k (hle k hk)
    · rw [World.commit_db, hincidents]
      exact hw.incident k (hle k hk)
    · rw [World.commit_db, hincidents]
      exact hw.linked k (hle k hk)
    · rw [World.commit_db, hattempts]
      exact hw.attempt k (hle k hk)
  refine ⟨hfresh, ⟨.single (.elapsed hincidents hattempts le_rfl), rfl, hattempts,
    fun id other hm => Table.get?_insert?_of_some hinsert hm, fun step hs => ?_,
    fun id incident _ => ?_, fun _ => hfresh⟩, hincidents, Table.get?_insert?_self hinsert,
    hid ▸ hw.mission _ le_rfl, hnew, hid ▸ hw.nonempty _ le_rfl, hsource, hstatus⟩
  · rw [World.commit_db, hsteps]
    exact hs
  · rw [World.commit_db, hincidents]

lemma ends_createMission (service : RecoveryService) (component : String) (hw : Fresh w) (title description ownerAgent : String)
    (priority : MissionPriority) (risk : MissionRisk) (objectives dependencies : Option (List Json))
    (xpReward : ℤ) :
    Ends (missions.createMission title description ownerAgent "automatic-recovery" priority risk
      objectives dependencies xpReward) w fun r w' =>
        ∃ mission, r = .ok mission ∧ Created service component w mission w' ∧
          ∀ step ∈ w'.db.steps.rows, step.missionId ≠ mission.id := by
  unfold Ends MissionService.createMission
  rw [Py.run_transaction]
  obtain ⟨table, hinsert⟩ := Table.exists_insert? (t := w.db.missions)
    (r := ({ id := w.uuids w.drawn, title, description, ownerAgent,
             source := "automatic-recovery", priority, risk, objectives := objectives.getD [],
             dependencies := dependencies.getD [], xpReward, createdAt := w.now } : Mission))
    (hw.mission _ le_rfl)
  have hids : w.moment.ids 0 = w.uuids w.drawn := rfl
  simp only [MissionService.createMissionTx, hids, World.moment_now, hinsert]
  refine ⟨_, rfl, created_commit hw rfl rfl rfl ?_ ?_ ?_ ?_, ?_⟩
  · rw [MissionService.addToLedger_missions, hinsert]
  · exact MissionService.addToLedger_steps ..
  · exact MissionService.addToLedger_incidents ..
  · exact MissionService.addToLedger_attempts ..
  · rw [World.commit_db, MissionService.addToLedger_steps]
    exact hw.plan _ le_rfl

/-- The mission has a step that recovers a component. -/
def HasRecoveryPlan (missionId : String) (db : Database) : Prop :=
  ∃ step ∈ db.steps.rows, step.missionId = missionId ∧ step.toolName = "service.recover"

/-- The one step of a recovery plan. -/
def recoveryStep (id missionId component : String) : MissionStep :=
  { id, missionId, position := 1, description := "Recover DripVid " ++ component ++ " service",
    toolName := "service.recover",
    toolArguments := some
      [("target", .str "dripvid"), ("component", .str component),
        ("conditions", .obj [("policy", .str "dripvid-2.90"), ("component", .str component)]),
        ("mutates_external_state", .bool true)] }

lemma planned_recovery (ids : ℕ → String) (missionId c : String) :
    ((recoveryPlan c).zipIdx.mapM fun (entry, i) =>
      MissionService.planEntryStep missionId ids i entry) =
        .ok [recoveryStep (ids 0) missionId c] := rfl

lemma createPlanTx_recovery {mission : Mission} {table : Table MissionStep} {m : Moment}
    {db : Database} (c : String) (hget : db.missions.get? mission.id = some mission)
    (hnone : ∀ step ∈ db.steps.rows, step.missionId ≠ mission.id)
    (hinsert : db.steps.insert? (recoveryStep (m.ids 0) mission.id c) = some table) :
    MissionService.createPlanTx mission.id (recoveryPlan c) m db =
      .ok ([recoveryStep (m.ids 0) mission.id c], { db with steps := table }) := by
  have hany : (db.steps.rows.any fun s => decide (s.missionId = mission.id)) = false := by
    simpa using hnone
  have hplanned := planned_recovery m.ids mission.id c
  have hall : db.steps.insertAll? [recoveryStep (m.ids 0) mission.id c] = some table := by
    rw [Table.insertAll?, hinsert]
    rfl
  rw [MissionService.createPlanTx, MissionService.getMissionTx_eq_ok.mpr hget]
  simp only [hany, raiseIf, if_false, Bool.false_eq_true, hplanned, hall, bind, Except.bind]
  rfl

lemma ends_createPlan {mission : Mission} (hcreated : Created service component w' mission w)
    (hnone : ∀ step ∈ w.db.steps.rows, step.missionId ≠ mission.id) (c : String) :
    Ends (MissionService.createPlan mission.id (recoveryPlan c)) w fun r w'' =>
      (∃ steps, r = .ok steps) ∧ Created service component w' mission w'' ∧
        HasRecoveryPlan mission.id w''.db := by
  have hw := hcreated.fresh
  obtain ⟨table, hinsert⟩ := Table.exists_insert? (t := w.db.steps)
    (r := recoveryStep (w.uuids w.drawn) mission.id c) (hw.step _ le_rfl)
  have hrun : (MissionService.createPlan mission.id (recoveryPlan c)).run w =
      (.ok [recoveryStep (w.uuids w.drawn) mission.id c],
        w.commit 1 { w.db with steps := table }) := by
    have hplan := createPlanTx_recovery (m := w.moment) c hcreated.get hnone hinsert
    refine (Py.run_transaction 1 (MissionService.createPlanTx mission.id (recoveryPlan c))
      (fun _ => .silent) w).trans ?_
    rw [hplan]
    rfl
  unfold Ends
  rw [hrun]
  have hrows := (Table.insert?_eq_some hinsert).2
  have hle : ∀ k, w.drawn + 1 ≤ k → w.drawn ≤ k := fun k hk => (Nat.le_succ _).trans hk
  have hfresh : Fresh (w.commit 1 { w.db with steps := table }) := by
    refine ⟨fun k hk => hw.mission k (hle k hk), fun k hk => ?_, fun k hk s hs => ?_,
      fun k hk => hw.incident k (hle k hk), fun k hk => hw.linked k (hle k hk),
      fun k hk => hw.attempt k (hle k hk),
      fun m k hm hk => hw.distinct m k (hle m hm) (hle k hk), fun k hk => hw.nonempty k (hle k hk)⟩
    · refine (Table.get?_insert?_ne hinsert fun h => ?_).trans (hw.step k (hle k hk))
      exact absurd (hw.distinct k w.drawn (hle k hk) le_rfl h) (Nat.ne_of_gt hk)
    · rw [World.commit_db, hrows, List.mem_append, List.mem_singleton] at hs
      rcases hs with hs | rfl
      · exact hw.plan k (hle k hk) s hs
      · exact (hcreated.drawn k (hle k hk)).symm
  have hmoves : Moves service [component] w (w.commit 1 { w.db with steps := table }) :=
    ⟨.single (.elapsed rfl rfl le_rfl), rfl, rfl, fun _ _ h => h,
      fun s hs => by
        rw [World.commit_db, hrows]
        exact List.mem_append_left _ hs,
      fun _ _ _ => Iff.rfl, fun _ => hfresh⟩
  refine ⟨⟨_, rfl⟩, ?_, ?_⟩
  · exact ⟨hfresh, hcreated.moves.trans hmoves, hcreated.incidents, hcreated.get, hcreated.new,
      fun k hk => hcreated.drawn k (hle k hk), hcreated.nonempty, hcreated.source,
      hcreated.queued⟩
  · refine ⟨recoveryStep (w.uuids w.drawn) mission.id c, ?_, rfl, rfl⟩
    rw [World.commit_db, hrows]
    exact List.mem_append_right _ (List.mem_singleton.mpr rfl)

/-- The incident has been given a mission of its own that is queued and has a plan. -/
structure Opened (old : RecoveryIncident) (w w' : World) : Prop where
  attached : ∃ mission, w'.db.missions.get? mission.id = some mission ∧
    w.db.missions.get? mission.id = none ∧ mission.source = "automatic-recovery" ∧
    mission.status = .queued ∧ HasRecoveryPlan mission.id w'.db ∧
    w'.db.incidents.get? old.id = some { old with recoveryMissionId := some mission.id }

lemma ends_openMission (service : RecoveryService) {observer : RecoveryObserver} {old : RecoveryIncident} (hw : Fresh w)
    (c : String)
    (hget : w.db.incidents.get? old.id = some old) (hactive : old.activeKey ≠ none)
    (hstate : old.state = .recoveryPending) (hnone : old.recoveryMissionId = none) :
    Ends (observer.openMission old.id c) w fun r w' =>
      (∃ mission, r = .ok mission) ∧ Opened old w w' ∧ Moves service [old.component] w w' := by
  refine Ends.bind (ends_createMission service old.component hw ..)
    (fun mission w₁ h => ?_) fun e w₁ h => ?_
  · obtain ⟨_, heq, hcreated, hplan⟩ := h
    obtain rfl := Except.ok.inj heq
    refine Ends.bind (ends_createPlan hcreated hplan c) (fun steps w₂ h => ?_) fun e w₂ h => ?_
    · obtain ⟨-, hcreated, hplan⟩ := h
      have hget₂ : w₂.db.incidents.get? old.id = some old := by rw [hcreated.incidents, hget]
      refine Ends.bind (ends_attachMission service hcreated.nonempty hget₂ hactive
        hstate hnone hcreated.drawn) (fun new w₃ h => ?_) fun e w₃ h => ?_
      · refine Ends.ret ⟨⟨_, rfl⟩, ⟨mission, h.moves.missions _ _ hcreated.get, hcreated.new,
          hcreated.source, hcreated.queued, ?_, h.saved⟩, hcreated.moves.trans h.moves⟩
        obtain ⟨step, hmem, hstep⟩ := hplan
        exact ⟨step, h.moves.steps step hmem, hstep⟩
      · cases h.result
    · obtain ⟨⟨steps, hsteps⟩, -⟩ := h
      cases hsteps
  · obtain ⟨_, heq, -⟩ := h
    cases heq

end Opening

end Handling
end AiHq
