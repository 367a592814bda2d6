import AiHq.Recovery.Service

/-!
# Runs of the recovery service

What each operation of the service can do to the tables, and the runs that are made of them.
-/

namespace AiHq

open Concurrent Relational

namespace Recovery

/-! ### Operations -/

inductive Operation where
  | getIncident (incidentId : String)
  | activeIncident (component : String)
  | incidentForMission (missionId : String)
  | updateDiagnostics (incidentId : String) (diagnostics : Dict)
  | observeFailure (component : String) (diagnostics : Option Dict)
  | resolveIfHealthy (component : String) (verification : Option Dict)
  | markRecoveryPending (incidentId : String)
  | canRecover (incidentId : String)
  | attachMission (incidentId missionId : String)
  | claimRecovery (incidentId : String)
  | recordAttempt (incidentId : String) (missionId : Option String) (simulated : Bool)
      (outcome : String) (result : Option Dict)
  | markVerifying (incidentId : String) (verification : Option Dict)
  | resolve (incidentId : String) (verification : Option Dict)
  | escalate (incidentId reason : String) (diagnostics : Option Dict)

/-- The call of the operation; what it returns is left to the caller. -/
def Operation.code (service : RecoveryService) : Operation → Py Unit
  | getIncident incidentId => do
    let _ ← RecoveryService.getIncident incidentId
  | activeIncident component => do
    let _ ← RecoveryService.activeIncident component
  | incidentForMission missionId => do
    let _ ← RecoveryService.incidentForMission missionId
  | updateDiagnostics incidentId diagnostics => do
    let _ ← RecoveryService.updateDiagnostics incidentId diagnostics
  | observeFailure component diagnostics => do
    let _ ← service.observeFailure component diagnostics
  | resolveIfHealthy component verification => do
    let _ ← RecoveryService.resolveIfHealthy component verification
  | markRecoveryPending incidentId => do
    let _ ← RecoveryService.markRecoveryPending incidentId
  | canRecover incidentId => do
    let _ ← service.canRecover incidentId
  | attachMission incidentId missionId => do
    let _ ← RecoveryService.attachMission incidentId missionId
  | claimRecovery incidentId => do
    let _ ← RecoveryService.claimRecovery incidentId
  | recordAttempt incidentId missionId simulated outcome result => do
    let _ ← RecoveryService.recordAttempt incidentId missionId simulated outcome result
  | markVerifying incidentId verification => do
    let _ ← RecoveryService.markVerifying incidentId verification
  | resolve incidentId verification => do
    let _ ← RecoveryService.resolve incidentId verification
  | escalate incidentId reason diagnostics => do
    let _ ← RecoveryService.escalate incidentId reason diagnostics

/-- The incident that the operation closes without asking whether it is still active. -/
def Operation.closes : Operation → Option String
  | resolve incidentId _ => some incidentId
  | escalate incidentId reason _ => if reason = "" then none else some incidentId
  | _ => none

/-! ### Effects -/

/-- The ways in which an operation replaces the row of an incident; `closed` is the incident that
it closes in any case. -/
inductive Update (service : RecoveryService) (closed : Option String) (now : Datetime)
    (old : RecoveryIncident) : RecoveryIncident → Prop where
  | diagnosed (diagnostics : Dict) (hactive : old.activeKey ≠ none) :
      Update service closed now old
      { old with diagnostics := boundedMapping (some diagnostics), lastObservedAt := now }
  | observed (diagnostics : Dict) (hactive : old.activeKey ≠ none)
      (helapsed : seconds service.observationSeconds ≤ now - old.lastObservedAt) :
      Update service closed now old
        { old with
          consecutiveFailures := old.consecutiveFailures + 1, lastFailureAt := now,
          lastObservedAt := now,
          diagnostics := if diagnostics.isEmpty then old.diagnostics else diagnostics,
          state := if old.state = .suspect ∧
              service.failureThreshold ≤ old.consecutiveFailures + 1 then .diagnosing
            else old.state }
  | healed (verification : Option Dict) (hactive : old.activeKey ≠ none) :
      Update service closed now old
      { old with
        state := .resolved, activeKey := none, consecutiveFailures := 0, lastObservedAt := now,
        resolvedAt := some now, verification := boundedMapping verification }
  | pending (hactive : old.activeKey ≠ none)
      (hstate : old.state ∈ [.suspect, .diagnosing, .recoveryPending]) :
      Update service closed now old
      { old with state := .recoveryPending, lastObservedAt := now }
  | attached (missionId : String) (hactive : old.activeKey ≠ none)
      (hstate : old.state = .recoveryPending) (hmission : old.recoveryMissionId = none)
      (hnonempty : missionId ≠ "") :
      Update service closed now old { old with recoveryMissionId := some missionId }
  | claimed (hactive : old.activeKey ≠ none) (hstate : old.state = .recoveryPending) :
      Update service closed now old { old with state := .recovering }
  | verifying (verification : Option Dict) (hactive : old.activeKey ≠ none) :
      Update service closed now old
        { old with
          state := .verifying, lastObservedAt := now,
          verification := match verification with
            | none => old.verification
            | some _ => boundedMapping verification }
  | resolved (verification : Option Dict) (hclosed : closed = some old.id) :
      Update service closed now old
      { old with
        state := .resolved, activeKey := none, consecutiveFailures := 0, resolvedAt := some now,
        lastObservedAt := now, verification := boundedMapping verification }
  | escalated (reason : String) (diagnostics : Option Dict) (hclosed : closed = some old.id) :
      Update service closed now old
      { old with
        state := .escalated, activeKey := none, escalationReason := some (slice reason 2048),
        resolvedAt := some now, lastObservedAt := now,
        diagnostics := match diagnostics with
          | none => old.diagnostics
          | some _ => boundedMapping diagnostics }

/-- What an operation that begins at `now` can do to the tables. -/
inductive Effect (service : RecoveryService) (closed : Option String) (now : Datetime)
    (db : Database) : Database → Prop where
  | unchanged : Effect service closed now db db
  | opened {component key : String} {incident : RecoveryIncident}
      {incidents : Table RecoveryIncident} {diagnostics : Dict} {id : String}
      (hkey : RecoveryService.activeKey component = .ok key)
      (hnone : RecoveryService.withActiveKey key db = none)
      (hincident : incident =
        { id, activeKey := some key, target := "dripvid", component, consecutiveFailures := 1,
          firstFailureAt := now, lastFailureAt := now, lastObservedAt := now, diagnostics })
      (hinsert : db.incidents.insert? incident = some incidents) :
      Effect service closed now db { db with incidents }
  | updated {old new : RecoveryIncident} (hold : db.incidents.get? new.id = some old)
      (hupdate : Update service closed now old new) :
      Effect service closed now db { db with incidents := db.incidents.set new }
  | attempted {incident : RecoveryIncident} {attempt : RecoveryAttempt}
      {attempts : Table RecoveryAttempt}
      (hold : db.incidents.get? incident.id = some incident)
      (hincident : attempt.incidentId = incident.id) (htarget : attempt.target = incident.target)
      (hcomponent : attempt.component = incident.component) (hnow : attempt.attemptedAt = now)
      (hinsert : db.attempts.insert? attempt = some attempts) :
      Effect service closed now db { db with
        attempts
        incidents := db.incidents.set
          (if attempt.simulated then incident
            else { incident with lastRecoveryAttemptAt := some now }) }

/-- The incident with a further attempt at `now`. -/
def withAttempt (incident : RecoveryIncident) (simulated : Bool) (now : Datetime) :
    RecoveryIncident :=
  if simulated then incident else { incident with lastRecoveryAttemptAt := some now }

lemma withAttempt_frame (incident : RecoveryIncident) (simulated : Bool) (now : Datetime) :
    (withAttempt incident simulated now).id = incident.id ∧
      (withAttempt incident simulated now).component = incident.component ∧
      (withAttempt incident simulated now).target = incident.target := by
  unfold withAttempt
  split_ifs <;> exact ⟨rfl, rfl, rfl⟩

section Transactions

open RecoveryService

variable {service : RecoveryService} {closed : Option String} {now : Datetime} {m : Moment}
  {db db' : Database}  {incidentId : String} {incident : RecoveryIncident}

lemma getIncidentTx_eq_ok :
    getIncidentTx incidentId db = .ok incident ↔ db.incidents.get? incidentId = some incident := by
  unfold getIncidentTx
  split <;> simp_all

lemma effect_save {old new : RecoveryIncident} (hold : db.incidents.get? incidentId = some old)
    (h : save new db = .ok (incident, db')) (hid : new.id = old.id)
    (hupdate : Update service closed now old new) : Effect service closed now db db' := by
  cases h
  have hkey : old.id = incidentId := Table.key_of_get? hold
  exact .updated (by rw [hid, hkey]; exact hold) hupdate

lemma get?_of_withActiveKey {key : String} (h : withActiveKey key db = some incident) :
    db.incidents.get? incident.id = some incident ∧ incident.activeKey = some key :=
  ⟨Table.get?_of_mem (List.mem_of_find?_eq_some h), by simpa using List.find?_some h⟩

lemma effect_updateDiagnosticsTx {diagnostics : Dict}
    (h : updateDiagnosticsTx incidentId diagnostics now db = .ok (incident, db')) :
    Effect service closed now db db' := by
  simp only [updateDiagnosticsTx, bind_eq_ok, raiseIf_eq_ok, getIncidentTx_eq_ok] at h
  obtain ⟨old, hold, -, hactive, h⟩ := h
  exact effect_save hold h rfl (.diagnosed diagnostics hactive)

lemma effect_observeFailureTx {component key : String} {diagnostics : Dict}
    (hkey : activeKey component = .ok key)
    (h : service.observeFailureTx component key diagnostics now m db = .ok (incident, db')) :
    Effect service closed now db db' := by
  unfold observeFailureTx at h
  split at h
  · next hnone =>
    simp only at h
    split at h
    · cases h
    · next incidents hinsert =>
      cases h
      exact .opened hkey hnone rfl hinsert
  · next old hold =>
    obtain ⟨hget, hactive⟩ := get?_of_withActiveKey hold
    by_cases helapsed : now - old.lastObservedAt < seconds service.observationSeconds
    · rw [if_pos helapsed] at h
      cases h
      exact .unchanged
    · rw [if_neg helapsed] at h
      exact effect_save hget h rfl
        (.observed diagnostics (by simp [hactive]) (not_lt.mp helapsed))

lemma effect_resolveIfHealthyTx {key : String} {verification : Option Dict}
    {result : Option RecoveryIncident}
    (h : resolveIfHealthyTx key verification now db = .ok (result, db')) :
    Effect service closed now db db' := by
  unfold resolveIfHealthyTx at h
  split at h
  · cases h
    exact .unchanged
  · next old hold =>
    obtain ⟨hget, hactive⟩ := get?_of_withActiveKey hold
    cases h
    exact .updated hget (.healed verification (by simp [hactive]))

lemma effect_markRecoveryPendingTx
    (h : markRecoveryPendingTx incidentId now db = .ok (incident, db')) :
    Effect service closed now db db' := by
  simp only [markRecoveryPendingTx, bind_eq_ok, raiseIf_eq_ok, getIncidentTx_eq_ok] at h
  obtain ⟨old, hold, -, hactive, -, hstate, h⟩ := h
  exact effect_save hold h rfl (.pending hactive (not_not.mp hstate))

lemma effect_attachMissionTx {missionId : String} (hnonempty : missionId ≠ "")
    (h : attachMissionTx incidentId missionId db = .ok (incident, db')) :
    Effect service closed now db db' := by
  simp only [attachMissionTx, bind_eq_ok, getIncidentTx_eq_ok] at h
  obtain ⟨old, hold, h⟩ := h
  split_ifs at h with hfree hsame
  · exact effect_save hold h rfl (.attached missionId hfree.1 hfree.2.1 hfree.2.2 hnonempty)
  · cases h
    exact .unchanged

lemma effect_claimRecoveryTx : Effect service closed now db (claimRecoveryTx incidentId db).2 := by
  unfold claimRecoveryTx
  split
  · exact .unchanged
  · next old hold =>
    split_ifs with hpending
    · have hkey : old.id = incidentId := Table.key_of_get? hold
      exact .updated (hkey ▸ hold) (.claimed hpending.1 hpending.2)
    · exact .unchanged

lemma effect_recordAttemptTx {missionId : Option String} {simulated : Bool} {outcome : String}
    {result : Option Dict} {attempt : RecoveryAttempt}
    (h : recordAttemptTx incidentId missionId simulated outcome result now m db
      = .ok (attempt, db')) : Effect service closed now db db' := by
  simp only [recordAttemptTx, bind_eq_ok, getIncidentTx_eq_ok] at h
  obtain ⟨old, hold, h⟩ := h
  split at h
  · cases h
  · next attempts hinsert =>
    cases h
    have hkey : old.id = incidentId := Table.key_of_get? hold
    exact .attempted (hkey ▸ hold) rfl rfl rfl rfl hinsert

lemma effect_setActiveStateTx {verification : Option Dict}
    (h : setActiveStateTx incidentId .verifying verification now db = .ok (incident, db')) :
    Effect service closed now db db' := by
  simp only [setActiveStateTx, bind_eq_ok, raiseIf_eq_ok, getIncidentTx_eq_ok] at h
  obtain ⟨old, hold, -, hactive, h⟩ := h
  exact effect_save hold h rfl (.verifying verification hactive)

lemma effect_resolveTx {verification : Option Dict}
    (h : resolveTx incidentId verification now db = .ok (incident, db')) :
    Effect service (some incidentId) now db db' := by
  simp only [resolveTx, bind_eq_ok, getIncidentTx_eq_ok] at h
  obtain ⟨old, hold, h⟩ := h
  exact effect_save hold h rfl
    (.resolved verification (congrArg some (Table.key_of_get? hold).symm))

lemma effect_escalateTx {reason : String} {diagnostics : Option Dict}
    (h : escalateTx incidentId reason diagnostics now db = .ok (incident, db')) :
    Effect service (some incidentId) now db db' := by
  simp only [escalateTx, bind_eq_ok, getIncidentTx_eq_ok] at h
  obtain ⟨old, hold, h⟩ := h
  exact effect_save hold h rfl
    (.escalated reason diagnostics (congrArg some (Table.key_of_get? hold).symm))

end Transactions

/-- What running an operation from `w` may lead to. -/
structure Leads (service : RecoveryService) (closed : Option String) (w w' : World) : Prop where
  effect : Effect service closed w.now w.db w'.db
  now : w'.now = w.now

section Running

variable {service : RecoveryService} {closed : Option String} {α : Type} {w : World} {n : ℕ}
  {f : Moment → Database → Except PyError (α × Database)} {message : String}

lemma Leads.refl (w : World) : Leads service closed w w := ⟨.unchanged, rfl⟩

/-- A transaction in a handler that only raises. -/
lemma run_caught {ev : Except PyError α → Event} {handler : PyError → Py α}
    (hraise : ∀ e, ∃ e', handler e = .raise e') (w : World) :
    (∀ a db, f w.moment w.db = .ok (a, db) →
      (tryCatch (Py.transaction n f ev) handler).run w = (.ok a, w.commit n db)) ∧
    ∀ e, f w.moment w.db = .error e →
      ∃ e', (tryCatch (Py.transaction n f ev) handler).run w = (.error e', w) := by
  rw [Prog.run_tryCatch, Py.run_transaction]
  refine ⟨fun a db hf => by rw [hf], fun e hf => ?_⟩
  obtain ⟨e', he⟩ := hraise e
  exact ⟨e', by simp only [hf, he, Prog.run_raise]⟩

lemma leads_caught {ev : Except PyError α → Event} {handler : PyError → Py α}
    (hraise : ∀ e, ∃ e', handler e = .raise e')
    (hf : ∀ a db, f w.moment w.db = .ok (a, db) → Effect service closed w.now w.db db) :
    Leads service closed w ((tryCatch (Py.transaction n f ev) handler).run w).2 := by
  obtain ⟨hok, herror⟩ : (∀ a db, f w.moment w.db = .ok (a, db) →
      (tryCatch (Py.transaction n f ev) handler).run w = (.ok a, w.commit n db)) ∧ _ :=
    run_caught hraise w
  cases hfw : f w.moment w.db with
  | ok r =>
    rw [hok r.1 r.2 hfw]
    exact ⟨hf r.1 r.2 hfw, rfl⟩
  | error e =>
    obtain ⟨e', hrun⟩ := herror e hfw
    rw [hrun]
    exact .refl w

lemma run_persistedOrRefused (message : String)
    (f : Moment → Database → Except PyError (α × Database))
    (ev : Except PyError α → Event) (w : World) :
    (∀ a db, f w.moment w.db = .ok (a, db) →
      (RecoveryService.persistedOrRefused message (.transaction n f ev)).run w =
        (.ok a, w.commit n db)) ∧
    ∀ e, f w.moment w.db = .error e →
      ∃ e', (RecoveryService.persistedOrRefused message (.transaction n f ev)).run w =
        (.error e', w) :=
  run_caught (fun e => by cases e <;> exact ⟨_, rfl⟩) w

lemma leads_persisted
    (hf : ∀ a db, f w.moment w.db = .ok (a, db) → Effect service closed w.now w.db db) :
    Leads service closed w ((RecoveryService.persisted message (.transaction n f)).run w).2 :=
  leads_caught (fun _ => ⟨_, rfl⟩) hf

lemma leads_persistedOrRefused
    (hf : ∀ a db, f w.moment w.db = .ok (a, db) → Effect service closed w.now w.db db) :
    Leads service closed w
      ((RecoveryService.persistedOrRefused message (.transaction n f)).run w).2 :=
  leads_caught (fun e => by cases e <;> exact ⟨_, rfl⟩) hf

/-- A read changes nothing. -/
lemma leads_caught_query {handler : PyError → Py α} (hraise : ∀ e, ∃ e', handler e = .raise e')
    (g : Moment → Database → Except PyError α) (w : World) :
    Leads service closed w ((tryCatch (Py.query g) handler).run w).2 := by
  unfold Py.query Py.session
  refine leads_caught hraise fun a db h => ?_
  obtain ⟨_, -, h⟩ := Py.map_eq_ok.mp h
  cases h
  exact .unchanged

lemma leads_persisted_query (g : Moment → Database → Except PyError α) (w : World) :
    Leads service closed w ((RecoveryService.persisted message (.query g)).run w).2 :=
  leads_caught_query (fun _ => ⟨_, rfl⟩) g w

lemma leads_persistedOrRefused_query (g : Moment → Database → Except PyError α) (w : World) :
    Leads service closed w ((RecoveryService.persistedOrRefused message (.query g)).run w).2 :=
  leads_caught_query (fun e => by cases e <;> exact ⟨_, rfl⟩) g w

/-- What comes after the call changes nothing. -/
lemma run_discard (p : Py α) (w : World) : ((do let _ ← p : Py Unit).run w).2 = (p.run w).2 := by
  rw [Prog.run_bind]
  split <;> simp_all

lemma leads_discard {p : Py α} (hp : Leads service closed w (p.run w).2) :
    Leads service closed w ((do let _ ← p : Py Unit).run w).2 := by
  rwa [run_discard]

lemma leads_clock {k : Datetime → Py α} (hk : Leads service closed w ((k w.now).run w).2) :
    Leads service closed w ((Py.clock >>= k).run w).2 := by
  rwa [Py.run_clock_bind]

lemma leads_lift {β : Type} {x : Except PyError β} {k : β → Py α}
    (hk : ∀ b, x = .ok b → Leads service closed w ((k b).run w).2) :
    Leads service closed w ((Py.lift x >>= k).run w).2 := by
  rw [Py.run_lift_bind]
  cases x with
  | ok b => exact hk b rfl
  | error e => exact .refl w

/-- An operation has one of the effects. -/
theorem leads_code (service : RecoveryService) (op : Operation) (w : World) :
    Leads service op.closes w ((op.code service).run w).2 := by
  cases op with
  | getIncident incidentId =>
    exact leads_discard (leads_persistedOrRefused_query _ w)
  | activeIncident component =>
    refine leads_discard (leads_lift fun key _ => ?_)
    exact leads_persisted_query _ w
  | incidentForMission missionId =>
    refine leads_discard ?_
    unfold RecoveryService.incidentForMission
    split_ifs
    · exact .refl w
    · exact leads_persisted_query _ w
  | updateDiagnostics incidentId diagnostics =>
    refine leads_discard (leads_clock ?_)
    exact leads_persistedOrRefused fun _ _ h => effect_updateDiagnosticsTx h
  | observeFailure component diagnostics =>
    refine leads_discard (leads_lift fun key hkey => leads_clock ?_)
    exact leads_persisted fun _ _ h => effect_observeFailureTx hkey h
  | resolveIfHealthy component verification =>
    refine leads_discard (leads_lift fun key _ => leads_clock ?_)
    exact leads_persisted fun _ _ h => effect_resolveIfHealthyTx h
  | markRecoveryPending incidentId =>
    refine leads_discard (leads_clock ?_)
    exact leads_persistedOrRefused fun _ _ h => effect_markRecoveryPendingTx h
  | canRecover incidentId =>
    refine leads_discard (leads_clock ?_)
    exact leads_persistedOrRefused_query _ w
  | attachMission incidentId missionId =>
    refine leads_discard ?_
    unfold RecoveryService.attachMission
    split_ifs with hempty
    · exact .refl w
    · exact leads_persistedOrRefused fun _ _ h => effect_attachMissionTx hempty h
  | claimRecovery incidentId =>
    refine leads_discard (leads_clock ?_)
    refine leads_persisted fun claimed db h => ?_
    have hdb : (RecoveryService.claimRecoveryTx incidentId w.db).2 = db :=
      congrArg Prod.snd (Except.ok.inj h)
    exact hdb ▸ effect_claimRecoveryTx
  | recordAttempt incidentId missionId simulated outcome result =>
    refine leads_discard (leads_clock (leads_lift fun _ _ => ?_))
    exact leads_persistedOrRefused fun _ _ h => effect_recordAttemptTx h
  | markVerifying incidentId verification =>
    refine leads_discard (leads_clock ?_)
    exact leads_persistedOrRefused fun _ _ h => effect_setActiveStateTx h
  | resolve incidentId verification =>
    refine leads_discard (leads_clock ?_)
    exact leads_persistedOrRefused fun _ _ h => effect_resolveTx h
  | escalate incidentId reason diagnostics =>
    refine leads_discard ?_
    simp only [RecoveryService.escalate, Operation.closes]
    split_ifs
    · exact .refl w
    · refine leads_clock ?_
      exact leads_persistedOrRefused fun _ _ h => effect_escalateTx h

end Running

/-! ### Runs -/

/-- Time passes or an operation is run. Nothing else writes the tables of recovery. -/
inductive Next (service : RecoveryService) : World → World → Prop where
  | elapsed {w w' : World} (hincidents : w'.db.incidents = w.db.incidents)
      (hattempts : w'.db.attempts = w.db.attempts) (hnow : w.now ≤ w'.now) : Next service w w'
  | called (w : World) (op : Operation) : Next service w ((op.code service).run w).2

/-- Reached from empty tables by operations, one after the other. -/
def Reachable (service : RecoveryService) (w : World) : Prop :=
  ∃ w₀ : World, w₀.db.incidents = ∅ ∧ w₀.db.attempts = ∅ ∧
    Relation.ReflTransGen (Next service) w₀ w

lemma Reachable.run {service : RecoveryService} {w w' : World} (hw : Reachable service w)
    (h : Relation.ReflTransGen (Next service) w w') : Reachable service w' := by
  obtain ⟨w₀, hincidents, hattempts, hrun⟩ := hw
  exact ⟨w₀, hincidents, hattempts, hrun.trans h⟩

/-- What holds of empty tables, as time passes, and after every effect, holds in every run. -/
lemma Reachable.induct {service : RecoveryService} {w : World} {J : Datetime → Database → Prop}
    (hw : Reachable service w)
    (hempty : ∀ now db, db.incidents = ∅ → db.attempts = ∅ → J now db)
    (helapsed : ∀ now now' db db', db'.incidents = db.incidents → db'.attempts = db.attempts →
      now ≤ now' → J now db → J now' db')
    (heffect : ∀ closed now db db', Effect service closed now db db' → J now db → J now db') :
    J w.now w.db := by
  obtain ⟨w₀, hincidents, hattempts, hrun⟩ := hw
  induction hrun with
  | refl => exact hempty _ _ hincidents hattempts
  | @tail v _ _ hnext ih =>
    cases hnext with
    | elapsed hincidents hattempts hnow => exact helapsed _ _ _ _ hincidents hattempts hnow ih
    | called op =>
      have hleads := leads_code service op v
      rw [hleads.now]
      exact heffect _ _ _ _ hleads.effect ih

/-- Wait, then run the operation, for each entry. -/
def play (service : RecoveryService) (w : World) : List (ℤ × Operation) → World
  | [] => w
  | (delay, op) :: rest =>
    play service ((op.code service).run { w with now := w.now + seconds delay }).2 rest

lemma reachable_play {w : World} (hw : Reachable service w) {entries : List (ℤ × Operation)}
    (hdelay : ∀ entry ∈ entries, 0 ≤ entry.1) : Reachable service (play service w entries) := by
  induction entries generalizing w with
  | nil => exact hw
  | cons entry entries ih =>
    obtain ⟨w₀, hincidents, hattempts, hrun⟩ := hw
    have hnow : w.now ≤ w.now + seconds entry.1 := by
      refine Int.le_add_of_nonneg_right ?_
      exact Int.mul_nonneg (hdelay entry List.mem_cons_self) (by decide)
    have helapsed : Next service w { w with now := w.now + seconds entry.1 } :=
      .elapsed rfl rfl hnow
    refine ih ⟨w₀, hincidents, hattempts, (hrun.tail helapsed).tail (.called _ entry.2)⟩ ?_
    exact fun e he => hdelay e (List.mem_cons_of_mem _ he)

end Recovery
end AiHq
