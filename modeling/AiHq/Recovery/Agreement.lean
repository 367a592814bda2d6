import AiHq.Recovery.Handling

/-!
# The cycle and the policy

The cycle decides for each component whether it has failed, from the status of its service. What
is done about the failure is decided by the policy, which asks for the readiness of DripVid first.
-/

namespace AiHq

open Concurrent Relational Recovery

namespace Agreement

open DripVidRecoveryCycle Handling

variable (observer : RecoveryObserver) (seen : Observation)

/-- The incident that holds the key of the component. -/
def activeOf (component : String) (w : World) : Option RecoveryIncident :=
  RecoveryService.withActiveKey ("dripvid:" ++ component) w.db

/-- The failures that are counted once this observation has been made. -/
def failuresAfter (incident : RecoveryIncident) (now : Datetime) : ℤ :=
  if now - incident.lastObservedAt < seconds observer.recovery.observationSeconds then
    incident.consecutiveFailures
  else incident.consecutiveFailures + 1

/-- The component is seen down, often enough, and its incident has no mission. -/
structure Ripe (component : String) (incident : RecoveryIncident) (w : World) : Prop where
  active : activeOf component w = some incident
  down : serviceDown (state (seen.statuses component)) = true
  threshold : observer.failureThreshold ≤ failuresAfter observer incident w.now
  mission : incident.recoveryMissionId = none

/-- The budget and the cooldown of the component permit an attempt. -/
structure Permits (incident : RecoveryIncident) (now : Datetime) (db : Database) : Prop where
  budget : ((RecoveryService.countedAttempts incident
    (now - seconds observer.recovery.budgetWindowSeconds) db).length : ℤ) <
      observer.recovery.attemptBudget
  cooldown : ∀ last, incident.lastRecoveryAttemptAt = some last →
    seconds observer.recovery.cooldownSeconds ≤ now - last

/-- A recovery of the component is due. -/
structure Due (component : String) (incident : RecoveryIncident) (w : World) : Prop
    extends Ripe observer seen component incident w where
  state : incident.state ∈ [.suspect, .diagnosing, .recoveryPending]
  permits : Permits observer incident w.now w.db

/-- The component stops the cycle: its incident is ripe, but already being recovered. -/
def Stops (component : String) (w : World) : Prop :=
  ∃ incident, Ripe observer seen component incident w ∧ incident.state = .recovering

/-- The incident has been escalated, or has got a new mission with a plan. -/
def Acted (old : RecoveryIncident) (w w' : World) : Prop :=
  ∃ new, w'.db.incidents.get? old.id = some new ∧ (new.state = .escalated ∨
    ∃ mission, new.recoveryMissionId = some mission.id ∧ w.db.missions.get? mission.id = none ∧
      w'.db.missions.get? mission.id = some mission ∧ mission.source = "automatic-recovery" ∧
      mission.status = .queued ∧ HasRecoveryPlan mission.id w'.db)

/-- The incident has not been escalated, and has no mission. -/
def Idle (old : RecoveryIncident) (w : World) : Prop :=
  ∃ new, w.db.incidents.get? old.id = some new ∧ new.state ≠ .escalated ∧
    new.recoveryMissionId = none

variable {observer} {seen} {component : String} {w w' : World} {incident : RecoveryIncident}

/-! ### Active incidents -/

lemma activeKey_eq (h : component ∈ recoveryComponents) :
    RecoveryService.activeKey component = .ok ("dripvid:" ++ component) := if_pos h

lemma key_inj {a b : String} (h : "dripvid:" ++ a = "dripvid:" ++ b) : a = b := by
  have hlist := congrArg String.toList h
  rw [String.toList_append, String.toList_append] at hlist
  exact String.toList_inj.mp (List.append_cancel_left hlist)

lemma activeOf_eq_some (hsound : Incidents.Sound w.db) : activeOf component w = some incident ↔
    w.db.incidents.get? incident.id = some incident ∧
      incident.activeKey = some ("dripvid:" ++ component) := by
  refine ⟨get?_of_withActiveKey, fun ⟨hget, hkey⟩ => ?_⟩
  have hmem := Table.mem_of_get? hget
  have hcomponent (r) (hr : r ∈ w.db.incidents.rows)
      (hheld : r.activeKey = some ("dripvid:" ++ component)) : r.component = component :=
    key_inj (hsound.named r hr _ hheld).symm
  cases hfound : activeOf component w with
  | none => simpa [hkey] using List.find?_eq_none.mp hfound incident hmem
  | some found =>
    obtain ⟨hget', hkey'⟩ := get?_of_withActiveKey hfound
    have hmem' := Table.mem_of_get? hget'
    rw [hsound.unique found hmem' incident hmem
      ((hcomponent found hmem' hkey').trans (hcomponent incident hmem hkey).symm)
      (by simp [hkey']) (by simp [hkey])]

lemma component_of_activeOf (hsound : Incidents.Sound w.db)
    (h : activeOf component w = some incident) : incident.component = component := by
  obtain ⟨hget, hkey⟩ := (activeOf_eq_some hsound).mp h
  exact key_inj (hsound.named incident (Table.mem_of_get? hget) _ hkey).symm

variable {service : RecoveryService} {touched : List String}

/-- Handling other components leaves the active incident of this one as it is. -/
lemma activeOf_moves (hsound : Incidents.Sound w.db) (hsound' : Incidents.Sound w'.db)
    (h : Moves service touched w w') (hne : component ∉ touched) :
    activeOf component w' = activeOf component w := by
  refine Option.ext fun incident => ?_
  constructor
  · intro hactive
    have hcomponent := component_of_activeOf hsound' hactive
    obtain ⟨hget, hkey⟩ := (activeOf_eq_some hsound').mp hactive
    rw [h.others _ _ (hcomponent ▸ hne)] at hget
    exact (activeOf_eq_some hsound).mpr ⟨hget, hkey⟩
  · intro hactive
    have hcomponent := component_of_activeOf hsound hactive
    obtain ⟨hget, hkey⟩ := (activeOf_eq_some hsound).mp hactive
    rw [← h.others _ _ (hcomponent ▸ hne)] at hget
    exact (activeOf_eq_some hsound').mpr ⟨hget, hkey⟩

lemma ripe_moves (hsound : Incidents.Sound w.db) (hsound' : Incidents.Sound w'.db)
    (h : Moves service touched w w') (hne : component ∉ touched) :
    Ripe observer seen component incident w' ↔ Ripe observer seen component incident w := by
  have hactive := activeOf_moves hsound hsound' h hne
  constructor
  · rintro ⟨ha, hdown, hthreshold, hmission⟩
    exact ⟨hactive ▸ ha, hdown, h.now ▸ hthreshold, hmission⟩
  · rintro ⟨ha, hdown, hthreshold, hmission⟩
    exact ⟨hactive.trans ha, hdown, h.now.symm ▸ hthreshold, hmission⟩

lemma stops_moves (hsound : Incidents.Sound w.db) (hsound' : Incidents.Sound w'.db)
    (h : Moves service touched w w') (hne : component ∉ touched) :
    Stops observer seen component w' ↔ Stops observer seen component w := by
  simp only [Stops, ripe_moves hsound hsound' h hne]

lemma due_moves (hsound : Incidents.Sound w.db) (hsound' : Incidents.Sound w'.db)
    (h : Moves service touched w w') (hne : component ∉ touched)
    (hdue : Due observer seen component incident w) : Due observer seen component incident w' := by
  refine ⟨(ripe_moves hsound hsound' h hne).mpr hdue.toRipe, hdue.state, ?_, ?_⟩
  · rw [h.now, RecoveryService.countedAttempts, h.attempts]
    exact hdue.permits.budget
  · rw [h.now]
    exact hdue.permits.cooldown

/-! ### Handling a failure -/

lemma canRecoverTx_pending (observer : RecoveryObserver) (now : Datetime) {db : Database}
    (hget : db.incidents.get? incident.id = some incident) (hactive : incident.activeKey ≠ none)
    (hstate : incident.state = .recoveryPending) :
    ∃ allowance, observer.recovery.canRecoverTx incident.id now db = .ok allowance ∧
      (Permits observer incident now db → allowance.allowed = true) := by
  simp only [RecoveryService.canRecoverTx, getIncidentTx_eq_ok.mpr hget, bind, Except.bind]
  rw [if_neg (by simp [hactive, hstate])]
  by_cases hbudget : observer.recovery.attemptBudget ≤ ((RecoveryService.countedAttempts incident
      (now - seconds observer.recovery.budgetWindowSeconds) db).length : ℤ)
  · rw [if_pos hbudget]
    exact ⟨_, rfl, fun h => absurd h.budget (not_lt.mpr hbudget)⟩
  · rw [if_neg hbudget]
    cases hlast : incident.lastRecoveryAttemptAt with
    | none => exact ⟨_, rfl, fun _ => rfl⟩
    | some last =>
      by_cases hcool : now - last < seconds observer.recovery.cooldownSeconds
      · simp only [if_pos hcool]
        exact ⟨_, rfl, fun h => absurd hcool (not_lt.mpr (h.cooldown last hlast))⟩
      · simp only [if_neg hcool]
        exact ⟨_, rfl, fun _ => rfl⟩

/-- How the handling of a component ends. -/
structure Handled {α : Type} (observer : RecoveryObserver) (seen : Observation)
    (component : String) (w : World) (r : Except PyError α) (w' : World) : Prop where
  moves : Moves observer.recovery [component] w w'
  ended : (∃ a, r = .ok a) ↔ isBool seen.readiness "ok" true ∨ ¬Stops observer seen component w
  acted : ∀ incident, Due observer seen component incident w →
    (¬isBool seen.readiness "ok" true → Acted incident w w') ∧
      (isBool seen.readiness "ok" true → Idle incident w')

/-- What is known of the world in which a component is handled. -/
structure Ready (observer : RecoveryObserver) (seen : Observation) (component : String)
    (w : World) : Prop where
  reachable : Reachable observer.recovery w
  fresh : Fresh w
  known : component ∈ recoveryComponents
  storage : ¬storageCritical seen.readiness

lemma Ready.sound (h : Ready observer seen component w) : Incidents.Sound w.db :=
  Incidents.sound_of_reachable h.reachable

lemma Ready.available (h : Ready observer seen component w) :
    ¬storageIs seen.readiness "available" false := fun hs => h.storage (.inl hs)

lemma Ready.writable (h : Ready observer seen component w) :
    ¬storageIs seen.readiness "writable" false := fun hs => h.storage (.inr hs)

lemma Idle.not_acted {old : RecoveryIncident} (h : Idle old w') : ¬Acted old w w' := by
  obtain ⟨new, hget, hstate, hmission⟩ := h
  rintro ⟨new', hget', h⟩
  obtain rfl := Option.some.inj (hget.symm.trans hget')
  rcases h with h | ⟨mission, h, -⟩
  · exact hstate h
  · rw [hmission] at h
    cases h

lemma failuresAfter_eq (diagnostics : Dict) (now : Datetime) (old : RecoveryIncident) :
    (observedRow observer.recovery now diagnostics old).consecutiveFailures =
      failuresAfter observer old now := by
  unfold observedRow failuresAfter
  split_ifs <;> rfl

/-- The row of the incident while its failure is handled: at the threshold, with the diagnostics
of this observation. -/
structure Captured (observer : RecoveryObserver) (component : String) (old new : RecoveryIncident)
    (w w' : World) : Prop where
  get : w'.db.incidents.get? old.id = some new
  moves : Moves observer.recovery [component] w w'
  id : new.id = old.id
  component : new.component = component
  active : new.activeKey = old.activeKey
  mission : new.recoveryMissionId = old.recoveryMissionId
  target : new.target = old.target
  last : new.lastRecoveryAttemptAt = old.lastRecoveryAttemptAt
  failures : new.consecutiveFailures = failuresAfter observer old w.now
  state : new.state ∈ [.suspect, .diagnosing, .recoveryPending] ↔
    old.state ∈ [.suspect, .diagnosing, .recoveryPending]
  escalated : new.state = .escalated → old.state = .escalated

section Handling

variable {α : Type} {r : Except PyError α} {old new : RecoveryIncident} {v v' : World}

lemma Ripe.eq (h : Ripe observer seen component incident w)
    (hold : activeOf component w = some old) : incident = old :=
  Option.some.inj (h.active.symm.trans hold)

/-- Nothing is asked of a component that is not ripe. -/
lemma handled_of_not_ripe (hmoves : Moves observer.recovery [component] w v)
    (hripe : ∀ incident, ¬Ripe observer seen component incident w) (a : α) :
    Handled observer seen component w (.ok a) v :=
  ⟨hmoves, ⟨fun _ => .inr fun ⟨incident, h, _⟩ => hripe incident h, fun _ => ⟨a, rfl⟩⟩,
    fun incident hdue => absurd hdue.toRipe (hripe incident)⟩

/-- A ripe incident that can become pending does not stop the cycle. -/
lemma not_stops (observer : RecoveryObserver) (seen : Observation)
    (hold : activeOf component w = some old)
    (hstate : old.state ∈ [.suspect, .diagnosing, .recoveryPending]) :
    ¬Stops observer seen component w := by
  rintro ⟨incident, hripe, hrecovering⟩
  rw [hripe.eq hold] at hrecovering
  simp [hrecovering] at hstate

/-- The policy recovers what is ripe, unless readiness is confirmed. -/
lemma recover_of_ripe (hready : Ready observer seen component w)
    (hold : activeOf component w = some old) (hcaptured : Captured observer component old new w v)
    (hripe : Ripe observer seen component incident w) (hok : ¬isBool seen.readiness "ok" true) :
    (observer.decide new seen.readiness (state (seen.statuses component))).action = .recover := by
  obtain rfl := hripe.eq hold
  have hthreshold := hripe.threshold
  rw [← hcaptured.failures] at hthreshold
  obtain ⟨reason, hdecision⟩ := decideRecovery_recover hready.available hready.writable hok
    hready.known hripe.down hthreshold
  rw [RecoveryObserver.decide, hcaptured.component, hdecision]

/-- With readiness confirmed, the policy does nothing about the incident. -/
lemma handled_of_idle (hready : Ready observer seen component w)
    (hold : activeOf component w = some old) (hcaptured : Captured observer component old new w v)
    (hidle : (observer.decide new seen.readiness (state (seen.statuses component))).action ≠
      .recover) (a : α) :
    Handled observer seen component w (.ok a) v := by
  have hok : ∀ incident, Ripe observer seen component incident w →
      isBool seen.readiness "ok" true := fun incident hripe =>
    not_not.mp fun hok => hidle (recover_of_ripe hready hold hcaptured hripe hok)
  refine ⟨hcaptured.moves, ⟨fun _ => ?_, fun _ => ⟨a, rfl⟩⟩, fun incident hdue => ?_⟩
  · by_cases hstops : Stops observer seen component w
    · obtain ⟨incident, hripe, -⟩ := hstops
      exact .inl (hok incident hripe)
    · exact .inr hstops
  · have hready := hok incident hdue.toRipe
    obtain rfl := hdue.eq hold
    refine ⟨fun h => absurd hready h, fun _ =>
      ⟨_, hcaptured.get, fun hesc => ?_, hcaptured.mission.trans hdue.mission⟩⟩
    have hstate := hdue.state
    simp [hcaptured.escalated hesc] at hstate

/-- The incident is down, and is not one that can become pending. -/
lemma handled_of_refused {e : PyError} (hready : Ready observer seen component w)
    (hold : activeOf component w = some old) (hcaptured : Captured observer component old new w v)
    (hverifying : ¬(old.state = .verifying ∧ (seen.statuses component).isSome))
    (hnone : new.recoveryMissionId = none)
    (hrecover : (observer.decide new seen.readiness (state (seen.statuses component))).action =
      .recover) (hstate : new.state ∉ [.suspect, .diagnosing, .recoveryPending]) :
    Handled observer seen component w (.error e : Except PyError α) v := by
  obtain ⟨hdown, hthreshold, hok, -⟩ := down_of_recover hrecover
  have hstate' := (not_congr hcaptured.state).mp hstate
  have hstops : Stops observer seen component w := by
    refine ⟨old, ⟨hold, hdown, hcaptured.failures ▸ hthreshold, hcaptured.mission ▸ hnone⟩, ?_⟩
    have hactive : ¬Incidents.Terminal old := by
      obtain ⟨hget, hkey⟩ := (activeOf_eq_some hready.sound).mp hold
      exact (hready.sound.active old (Table.mem_of_get? hget)).mp (by simp [hkey])
    have hsome : (seen.statuses component).isSome = true := by
      cases hstatus : seen.statuses component with
      | none =>
        rw [hstatus] at hdown
        exact absurd hdown (by decide)
      | some _ => rfl
    have hnot : old.state ≠ .verifying := fun h => hverifying ⟨h, hsome⟩
    unfold Incidents.Terminal at hactive
    cases hs : old.state <;> simp_all
  refine ⟨hcaptured.moves, ⟨fun h => ?_, fun h => ?_⟩, fun incident hdue => ?_⟩
  · obtain ⟨a, ha⟩ := h
    cases ha
  · rcases h with h | h
    · exact absurd h hok
    · exact absurd hstops h
  · obtain rfl := hdue.eq hold
    exact absurd hdue.state hstate'

/-- The pending incident, once the policy has asked for its recovery. -/
lemma ends_pendingMission {decision : RecoveryDecision}
    (hdecision : decision.component = some component) (hready : Ready observer seen component w)
    (hold : activeOf component w = some old) (hcaptured : Captured observer component old new w v)
    (hactive : new.activeKey ≠ none) (hnone : new.recoveryMissionId = none)
    (hok : ¬isBool seen.readiness "ok" true) (hpending : new.state = .recoveryPending)
    (hstate : old.state ∈ [.suspect, .diagnosing, .recoveryPending]) :
    Ends (do
      let allowance ← observer.recovery.canRecover new.id
      if !allowance.allowed then
        if allowance.reason = "budget_exhausted" ∧ observer.notifications then do
          let _ ← RecoveryService.escalate new.id "budget_exhausted"
          return none
        else return none
      else match decision.component with
        | none => return none
        | some component => some <$> observer.openMission new.id component)
      v (Handled observer seen component w) := by
  have hget : v.db.incidents.get? new.id = some new := by rw [hcaptured.id, hcaptured.get]
  have hstops := not_stops observer seen hold hstate
  obtain ⟨allowance, htx, hallowed⟩ := canRecoverTx_pending observer v.now hget hactive hpending
  have hpermits : Permits observer old w.now w.db → Permits observer new v.now v.db := by
    intro h
    refine ⟨?_, ?_⟩
    · rw [RecoveryService.countedAttempts, hcaptured.target, hcaptured.component,
        hcaptured.moves.now, hcaptured.moves.attempts,
        ← component_of_activeOf hready.sound hold]
      exact h.budget
    · rw [hcaptured.last, hcaptured.moves.now]
      exact h.cooldown
  have hdenied : allowance.allowed = false → ∀ {v'} {a : Option Mission},
      Moves observer.recovery [component] w v' →
        Handled observer seen component w (.ok a) v' := by
    intro hno v' a hmoves
    refine ⟨hmoves, ⟨fun _ => .inr hstops, fun _ => ⟨a, rfl⟩⟩, fun incident hdue => ?_⟩
    obtain rfl := hdue.eq hold
    rw [hallowed (hpermits hdue.permits)] at hno
    cases hno
  refine Ends.bind (ends_canRecover htx) (fun a v₁ h => ?_) fun e v₁ h => ?_
  · obtain ⟨rfl, heq⟩ := h
    obtain rfl := Except.ok.inj heq
    by_cases hyes : a.allowed = true
    · rw [if_neg (by simp [hyes]), hdecision]
      have hw : Fresh v₁ := hcaptured.moves.fresh hready.fresh
      refine Ends.map (ends_openMission observer.recovery hw component hget hactive
        hpending hnone) (fun mission v₂ h => ?_) fun e v₂ h => ?_
      · obtain ⟨-, ⟨mission', hmission, hnew, hsource, hqueued, hplan, hsaved⟩, hmoves⟩ := h
        rw [hcaptured.component] at hmoves
        refine ⟨hcaptured.moves.trans hmoves, ⟨fun _ => .inr hstops, fun _ => ⟨_, rfl⟩⟩,
          fun incident hdue => ⟨fun _ => ?_, fun h => absurd h hok⟩⟩
        obtain rfl := hdue.eq hold
        rw [hcaptured.id] at hsaved
        refine ⟨_, hsaved, .inr ⟨mission', rfl, ?_, hmission, hsource, hqueued, hplan⟩⟩
        rw [Option.eq_none_iff_forall_ne_some]
        intro other hother
        have hlater := hcaptured.moves.missions _ _ hother
        rw [hnew] at hlater
        cases hlater
      · obtain ⟨⟨_, h⟩, -⟩ := h
        cases h
    · rw [if_pos (by simpa using hyes)]
      have hno : a.allowed = false := by simpa using hyes
      split_ifs
      · refine Ends.bind (ends_escalate observer.recovery (by decide) none hget)
          (fun new' v₂ h => ?_) fun e v₂ h => ?_
        · have hmoves := h.moves
          rw [hcaptured.component] at hmoves
          exact Ends.ret (hdenied hno (hcaptured.moves.trans hmoves))
        · cases h.result
      · exact Ends.ret (hdenied hno hcaptured.moves)
  · obtain ⟨-, h⟩ := h
    cases h

lemma Captured.pending {r : Except PyError RecoveryIncident}
    (h : Captured observer component old new w v)
    (hstate : old.state ∈ [.suspect, .diagnosing, .recoveryPending])
    (hsaved : Saved observer.recovery new
      { new with state := .recoveryPending, lastObservedAt := v.now } v r v') :
    Captured observer component old
      { new with state := .recoveryPending, lastObservedAt := v.now } w v' := by
  have hmoves := hsaved.moves
  rw [h.component] at hmoves
  exact ⟨h.id ▸ hsaved.saved, h.moves.trans hmoves, h.id, h.component, h.active, h.mission,
    h.target, h.last, h.failures, ⟨fun _ => hstate, fun _ => by simp⟩, fun hesc => by cases hesc⟩

lemma ends_createRecoveryMission (hready : Ready observer seen component w)
    (hold : activeOf component w = some old) (hcaptured : Captured observer component old new w v)
    (hverifying : ¬(old.state = .verifying ∧ (seen.statuses component).isSome)) :
    Ends (observer.createRecoveryMission new.id seen.readiness (state (seen.statuses component))
      false) v (Handled observer seen component w) := by
  have hget : v.db.incidents.get? new.id = some new := by rw [hcaptured.id, hcaptured.get]
  obtain ⟨hgetOld, hkey⟩ := (activeOf_eq_some hready.sound).mp hold
  have hactive : new.activeKey ≠ none := by simp [hcaptured.active, hkey]
  have hnamed : new.recoveryMissionId ≠ some "" := by
    rw [hcaptured.mission]
    exact Incidents.missionId_of_reachable hready.reachable old (Table.mem_of_get? hgetOld)
  refine Ends.bind (ends_getIncident hget) (fun found v₁ h => ?_) fun e v₁ h => ?_
  · obtain ⟨rfl, heq⟩ := h
    obtain rfl := Except.ok.inj heq
    by_cases hmission : found.recoveryMissionId.any (· ≠ "") = true
    · rw [if_pos hmission]
      refine Ends.ret (handled_of_not_ripe hcaptured.moves (fun incident hripe => ?_) none)
      obtain rfl := hripe.eq hold
      rw [hcaptured.mission, hripe.mission] at hmission
      cases hmission
    · rw [if_neg hmission]
      have hnone : found.recoveryMissionId = none := by
        cases hm : found.recoveryMissionId with
        | none => rfl
        | some m =>
          rw [hm] at hmission hnamed
          simp_all
      by_cases hrecover :
          (observer.decide found seen.readiness (state (seen.statuses component))).action = .recover
      · rw [if_neg (by simp [hrecover])]
        obtain ⟨-, -, hok, c, -, hcomp, hdecided⟩ := down_of_recover hrecover
        obtain rfl := (Option.some.inj hcomp).symm.trans hcaptured.component
        by_cases hstate : found.state ∈ [.suspect, .diagnosing, .recoveryPending]
        · refine Ends.bind (ends_markRecoveryPending observer.recovery hget hactive
            hstate) (fun pending v₂ h => ?_) fun e v₂ h => ?_
          · have hpending := hcaptured.pending (hcaptured.state.mp hstate) h
            have hends := ends_pendingMission hdecided hready hold hpending hactive hnone hok rfl
              (hcaptured.state.mp hstate)
            exact hends
          · cases h.result
        · refine Ends.bind (ends_markRecoveryPending_refused hget hstate) (fun a v₂ h => ?_)
            fun e v₂ h => ?_
          · obtain ⟨-, e, h⟩ := h
            cases h
          · obtain ⟨rfl, -⟩ := h
            exact handled_of_refused hready hold hcaptured hverifying hnone hrecover hstate
      · rw [if_pos (.inl hrecover)]
        exact Ends.ret (handled_of_idle hready hold hcaptured hrecover none)
  · obtain ⟨-, h⟩ := h
    cases h

lemma ends_handlePolicyEscalation (hready : Ready observer seen component w)
    (hold : activeOf component w = some old)
    (hcaptured : Captured observer component old new w v) :
    Ends (observer.handlePolicyEscalation new.id seen.readiness (state (seen.statuses component)))
      v fun r v' =>
        (r = .ok true ∧ Handled observer seen component w (.ok () : Except PyError Unit) v') ∨
          (r = .ok false ∧ v' = v) := by
  have hget : v.db.incidents.get? new.id = some new := by rw [hcaptured.id, hcaptured.get]
  refine Ends.bind (ends_getIncident hget) (fun found v₁ h => ?_) fun e v₁ h => ?_
  · obtain ⟨rfl, heq⟩ := h
    obtain rfl := Except.ok.inj heq
    by_cases hescalate :
        (observer.decide found seen.readiness (state (seen.statuses component))).action = .escalate
    · rw [if_neg (by simp [hescalate])]
      refine Ends.bind (ends_escalate observer.recovery (decideRecovery_reason _) _
        hget) (fun closed v₂ h => ?_) fun e v₂ h => ?_
      · have hmoves := h.moves
        rw [hcaptured.component] at hmoves
        have hok : ∀ incident, Ripe observer seen component incident w →
            isBool seen.readiness "ok" true := by
          intro incident hripe
          by_contra hok
          rw [recover_of_ripe hready hold hcaptured hripe hok] at hescalate
          cases hescalate
        refine Ends.ret (.inl ⟨rfl, hcaptured.moves.trans hmoves,
          ⟨fun _ => ?_, fun _ => ⟨(), rfl⟩⟩, fun incident hdue => ?_⟩)
        · by_cases hstops : Stops observer seen component w
          · obtain ⟨incident, hripe, -⟩ := hstops
            exact .inl (hok incident hripe)
          · exact .inr hstops
        · exact absurd hescalate
            (decideRecovery_of_ok hready.available hready.writable (hok incident hdue.toRipe) _).2
      · cases h.result
    · rw [if_pos hescalate]
      exact Ends.ret (.inr ⟨rfl, rfl⟩)
  · obtain ⟨-, h⟩ := h
    cases h

/-- The incident once the failure is at the threshold, with its diagnostics. -/
lemma captured_of_saved (hready : Ready observer seen component w)
    (hold : activeOf component w = some old) {diagnostics : Dict}
    {row : RecoveryIncident} {evidence : Dict} {r r' : Except PyError RecoveryIncident}
    (hobserved : Saved observer.recovery old
      (observedRow observer.recovery w.now diagnostics old) w r v)
    (hrow : row = { observedRow observer.recovery w.now diagnostics old with
      diagnostics := evidence, lastObservedAt := v.now })
    (hsaved : Saved observer.recovery (observedRow observer.recovery w.now diagnostics old) row
      v r' v') :
    Captured observer component old row w v' := by
  obtain ⟨hid, hcomponent, hkey, hmission, htarget, hlast⟩ :=
    observedRow_frame observer.recovery w.now diagnostics old
  have hc := component_of_activeOf hready.sound hold
  have hfirst := hobserved.moves
  have hsecond := hsaved.moves
  rw [hc] at hfirst
  rw [hcomponent, hc] at hsecond
  subst hrow
  refine ⟨hid ▸ hsaved.saved, hfirst.trans hsecond, hid, hcomponent.trans hc, hkey, hmission,
    htarget, hlast, failuresAfter_eq diagnostics w.now old,
    observedRow_pending w.now diagnostics old, observedRow_escalated⟩

lemma ends_handleFailure (hready : Ready observer seen component w)
    (hverifying : ∀ old, activeOf component w = some old →
      ¬(old.state = .verifying ∧ (seen.statuses component).isSome)) :
    Ends (handleFailure observer seen false component) w (Handled observer seen component w) := by
  have hkey := activeKey_eq hready.known
  cases hold : activeOf component w with
  | none =>
    have hripe : ∀ incident, ¬Ripe observer seen component incident w := by
      intro incident hripe
      cases hold.symm.trans hripe.active
    refine Ends.bind (ends_observeFailure_new hready.fresh _ hkey hold) (fun new v h => ?_)
      fun e v h => ?_
    · obtain ⟨_, heq, hone, hmoves⟩ := h
      obtain rfl := Except.ok.inj heq
      have hlow : new.consecutiveFailures < observer.failureThreshold := by
        rw [hone]
        exact lt_of_lt_of_le (by decide) observer.failureThreshold_ge
      rw [if_pos hlow]
      exact Ends.ret (handled_of_not_ripe hmoves hripe ())
    · obtain ⟨_, h, -⟩ := h
      cases h
  | some old =>
    refine Ends.bind (ends_observeFailure _ hkey hold) (fun new v h => ?_) fun e v h => ?_
    · obtain rfl := Except.ok.inj h.result
      obtain ⟨hid, -, hactive, -⟩ := observedRow_frame observer.recovery w.now
        (boundedMapping (some [("readiness", .obj seen.readiness)])) old
      have hobserved := h
      have hmoves := h.moves
      rw [component_of_activeOf hready.sound hold] at hmoves
      have hkeyOld := ((activeOf_eq_some hready.sound).mp hold).2
      generalize hrow : observedRow observer.recovery w.now
        (boundedMapping (some [("readiness", .obj seen.readiness)])) old = observed at *
      have hfailures : observed.consecutiveFailures = failuresAfter observer old w.now :=
        hrow ▸ failuresAfter_eq _ _ _
      by_cases hlow : observed.consecutiveFailures < observer.failureThreshold
      · rw [if_pos hlow]
        refine Ends.ret (handled_of_not_ripe hmoves (fun incident hripe => ?_) ())
        have hthreshold := hripe.threshold
        rw [hripe.eq hold, ← hfailures] at hthreshold
        exact absurd hlow (not_lt.mpr hthreshold)
      · rw [if_neg hlow]
        refine Ends.bind (ends_updateDiagnostics observer.recovery _
          (hid ▸ h.saved) (by simp [hactive, hkeyOld])) (fun saved v₁ h => ?_) fun e v₁ h => ?_
        · obtain rfl := Except.ok.inj h.result
          subst hrow
          have hcaptured := captured_of_saved hready hold hobserved rfl h
          have hescalation := ends_handlePolicyEscalation hready hold hcaptured
          refine Ends.bind hescalation (fun escalated v₂ h => ?_) fun e v₂ h => ?_
          · rcases h with ⟨heq, hhandled⟩ | ⟨heq, rfl⟩
            · obtain rfl := Except.ok.inj heq
              exact Ends.ret hhandled
            · obtain rfl := Except.ok.inj heq
              have hmission := ends_createRecoveryMission hready hold hcaptured
                (hverifying old hold)
              refine Ends.bind hmission (fun mission v₃ h => ?_) fun e v₃ h => ?_
              · exact Ends.ret ⟨h.moves, ⟨fun _ => h.ended.mp ⟨_, rfl⟩, fun _ => ⟨(), rfl⟩⟩,
                  h.acted⟩
              · refine ⟨h.moves, ⟨fun ⟨_, h⟩ => (nomatch h), fun hs => ?_⟩, h.acted⟩
                obtain ⟨_, h⟩ := h.ended.mpr hs
                cases h
          · rcases h with ⟨h, -⟩ | ⟨h, -⟩ <;> cases h
        · cases h.result
    · cases h.result

/-! ### One component -/

lemma isSome_of_down {status : Option Dict} (h : serviceDown (state status) = true) :
    status.isSome = true := by
  cases status with
  | none => exact absurd h (by decide)
  | some _ => rfl

lemma componentFailed_of_down {readiness : Dict} {status : Option Dict}
    (h : serviceDown (state status) = true) : componentFailed component readiness status = true := by
  rw [componentFailed, isSome_of_down h, h]
  rfl

/-- No state of a service is both a running and a stopped one. -/
lemma not_down_of_running {serviceState : Option String} (h : serviceRunning serviceState = true) :
    ¬serviceDown serviceState = true := by
  intro hdown
  simp only [serviceRunning, serviceDown, stateIn, decide_eq_true_eq, List.mem_cons,
    List.not_mem_nil, or_false] at h hdown
  rcases h with h | h <;> rw [h] at hdown <;> revert hdown <;> decide

lemma not_down_of_healthy {readiness : Dict} {status : Option Dict}
    (h : componentHealthy component readiness status = true) :
    ¬serviceDown (state status) = true := by
  simp only [componentHealthy, Bool.and_eq_true] at h
  exact not_down_of_running h.1.2

/-- What the loop makes of the handling of a failure. -/
lemma Handled.andThen (h : Ends (handleFailure observer seen false component) w
    (Handled observer seen component w)) :
    Ends (do handleFailure observer seen false component; return true) w
      (Handled observer seen component w) := by
  refine Ends.bind h (fun _ v h => ?_) fun e v h => ?_
  · exact Ends.ret ⟨h.moves, ⟨fun _ => h.ended.mp ⟨(), rfl⟩, fun _ => ⟨true, rfl⟩⟩, h.acted⟩
  · refine ⟨h.moves, ⟨fun ⟨_, h⟩ => (nomatch h), fun hs => ?_⟩, h.acted⟩
    obtain ⟨_, h⟩ := h.ended.mpr hs
    cases h

lemma ends_verifyRecovery (hready : Ready observer seen component w)
    (hold : activeOf component w = some old) (hstate : old.state = .verifying)
    (serviceState : Option String) :
    Ends (do
      let _ ← RecoveryObserver.verifyRecovery old.id seen.readiness serviceState
      return true) w (Handled observer seen component w) := by
  obtain ⟨hget, -⟩ := (activeOf_eq_some hready.sound).mp hold
  have hcomponent := component_of_activeOf hready.sound hold
  have hhandled {v : World} (hmoves : Moves observer.recovery [old.component] w v) :
      Handled observer seen component w (.ok true) v := by
    rw [hcomponent] at hmoves
    refine ⟨hmoves, ⟨fun _ => .inr ?_, fun _ => ⟨true, rfl⟩⟩, fun incident hdue => ?_⟩
    · rintro ⟨incident, hripe, hrecovering⟩
      rw [hripe.eq hold, hstate] at hrecovering
      cases hrecovering
    · have hdueState := hdue.state
      rw [hdue.eq hold, hstate] at hdueState
      simp at hdueState
  have hends : Ends (RecoveryObserver.verifyRecovery old.id seen.readiness serviceState) w
      fun r v => (∃ healthy, r = .ok healthy) ∧ Moves observer.recovery [old.component] w v := by
    refine Ends.bind (ends_getIncident hget) (fun found v h => ?_) fun e v h => ?_
    · obtain ⟨rfl, heq⟩ := h
      obtain rfl := Except.ok.inj heq
      by_cases hhealthy : verificationHealthy found.component seen.readiness serviceState = true
      · simp only [hhealthy, if_true]
        refine Ends.bind (ends_resolve observer.recovery _ hget)
          (fun _ v h => Ends.ret ⟨⟨_, rfl⟩, h.moves⟩) fun e v h => ?_
        cases h.result
      · simp only [hhealthy, if_false, Bool.false_eq_true]
        refine Ends.bind (ends_escalate observer.recovery (by decide) _ hget)
          (fun _ v h => Ends.ret ⟨⟨_, rfl⟩, h.moves⟩) fun e v h => ?_
        cases h.result
    · obtain ⟨-, h⟩ := h
      cases h
  refine Ends.bind hends (fun _ v h => Ends.ret (hhandled h.2)) fun e v h => ?_
  obtain ⟨⟨_, h⟩, -⟩ := h
  cases h

lemma ends_observeComponent (hready : Ready observer seen component w) :
    Ends (observeComponent observer seen false component) w (Handled observer seen component w) := by
  have hkey := activeKey_eq hready.known
  have hnotDown (hdown : ¬serviceDown (state (seen.statuses component)) = true)
      (incident : RecoveryIncident) : ¬Ripe observer seen component incident w :=
    fun hripe => hdown hripe.down
  refine Ends.bind (ends_activeIncident hkey) (fun active v h => ?_) fun e v h => ?_
  · obtain ⟨rfl, heq⟩ := h
    have hactive := Except.ok.inj heq
    cases hold : active with
    | none =>
      have hnone : activeOf component v = none := hactive.symm.trans hold
      by_cases hhealthy : componentHealthy component seen.readiness (seen.statuses component) = true
      · simp only [hhealthy, if_true]
        exact Ends.ret (handled_of_not_ripe (.refl v) (hnotDown (not_down_of_healthy hhealthy)) _)
      · by_cases hfailed : componentFailed component seen.readiness (seen.statuses component) = true
        · simp only [hhealthy, hfailed, if_true, if_false, Bool.false_eq_true]
          refine Handled.andThen (ends_handleFailure hready fun old hsome => ?_)
          cases hnone.symm.trans hsome
        · simp only [hhealthy, hfailed, if_false, Bool.false_eq_true]
          exact Ends.ret (handled_of_not_ripe (.refl v)
            (hnotDown fun hdown => hfailed (componentFailed_of_down hdown)) _)
    | some old =>
      have hsome : activeOf component v = some old := hactive.symm.trans hold
      by_cases hverifying : old.state = .verifying ∧ (seen.statuses component).isSome = true
      · simp only [hverifying, if_true, and_self]
        exact ends_verifyRecovery hready hsome hverifying.1 _
      · simp only [hverifying, if_false]
        by_cases hhealthy :
            componentHealthy component seen.readiness (seen.statuses component) = true
        · simp only [hhealthy, if_true]
          refine Ends.bind (ends_resolveIfHealthy observer.recovery _ hkey hsome)
            (fun _ v' h => ?_) fun e v' h => ?_
          · have hmoves := h.2
            rw [component_of_activeOf hready.sound hsome] at hmoves
            exact Ends.ret (handled_of_not_ripe hmoves (hnotDown (not_down_of_healthy hhealthy)) _)
          · obtain ⟨⟨_, h⟩, -⟩ := h
            cases h
        · by_cases hfailed :
              componentFailed component seen.readiness (seen.statuses component) = true
          · simp only [hhealthy, hfailed, if_true, if_false, Bool.false_eq_true]
            refine Handled.andThen (ends_handleFailure hready fun old' hsome' => ?_)
            obtain rfl := Option.some.inj (hsome.symm.trans hsome')
            exact hverifying
          · simp only [hhealthy, hfailed, if_false, Bool.false_eq_true]
            exact Ends.ret (handled_of_not_ripe (.refl v)
              (hnotDown fun hdown => hfailed (componentFailed_of_down hdown)) _)
  · obtain ⟨-, h⟩ := h
    cases h

end Handling

/-! ### The whole cycle -/

section Cycle

variable {components before after : List String} {old : RecoveryIncident} {v v' : World}

/-- How a cycle ends for the components that it goes through. -/
structure Cycled (observer : RecoveryObserver) (seen : Observation) (components : List String)
    (w w' : World) : Prop where
  moves : Moves observer.recovery components w w'
  acted : ∀ before component after, components = before ++ component :: after →
    ∀ incident, Due observer seen component incident w →
      (¬isBool seen.readiness "ok" true ∧ (∀ c ∈ before, ¬Stops observer seen c w) →
        Acted incident w w') ∧
      (¬(¬isBool seen.readiness "ok" true ∧ ∀ c ∈ before, ¬Stops observer seen c w) →
        Idle incident w')

/-- The incident of a component stays one of that component. -/
lemma component_moves {touched : List String} {service : RecoveryService} {new : RecoveryIncident}
    (h : Moves service touched w w') (hget : w.db.incidents.get? old.id = some old)
    (htouched : old.component ∈ touched) (hget' : w'.db.incidents.get? old.id = some new) :
    new.component ∈ touched := by
  by_contra hne
  rw [h.others _ _ hne, hget] at hget'
  exact hne (Option.some.inj hget' ▸ htouched)

lemma row_of_due (hsound : Incidents.Sound w.db)
    (hdue : Due observer seen component incident w) :
    w.db.incidents.get? incident.id = some incident ∧ incident.component = component :=
  ⟨((activeOf_eq_some hsound).mp hdue.active).1, component_of_activeOf hsound hdue.active⟩

/-- What has been done about an incident is not undone while other components are handled. -/
lemma Acted.moves {touched : List String} {service : RecoveryService}
    (h : Acted old w v) (hmoves : Moves service touched v v')
    (hne : ∀ new, v.db.incidents.get? old.id = some new → new.component ∉ touched) :
    Acted old w v' := by
  obtain ⟨new, hget, h⟩ := h
  refine ⟨new, (hmoves.others _ _ (hne new hget)).mpr hget, h.imp_right ?_⟩
  rintro ⟨mission, hmission, hnew, hstored, hsource, hqueued, step, hmem, hstep⟩
  exact ⟨mission, hmission, hnew, hmoves.missions _ _ hstored, hsource, hqueued,
    step, hmoves.steps step hmem, hstep⟩

lemma Idle.moves {touched : List String} {service : RecoveryService}
    (h : Idle old v) (hmoves : Moves service touched v v')
    (hne : ∀ new, v.db.incidents.get? old.id = some new → new.component ∉ touched) :
    Idle old v' := by
  obtain ⟨new, hget, h⟩ := h
  exact ⟨new, (hmoves.others _ _ (hne new hget)).mpr hget, h⟩

/-- A mission that is new after a while has been new from the beginning. -/
lemma Acted.earlier {touched : List String} {service : RecoveryService}
    (h : Acted old v v') (hmoves : Moves service touched w v) : Acted old w v' := by
  obtain ⟨new, hget, h⟩ := h
  refine ⟨new, hget, h.imp_right ?_⟩
  rintro ⟨mission, hmission, hnew, hrest⟩
  refine ⟨mission, hmission, ?_, hrest⟩
  rw [Option.eq_none_iff_forall_ne_some]
  intro other hother
  rw [hmoves.missions _ _ hother] at hnew
  cases hnew

/-- A cycle whose first component has been handled goes on with the others. -/
lemma Cycled.cons {α : Type} {a : α} (hready : Ready observer seen component w)
    (hnodup : (component :: components).Nodup)
    (h : Handled observer seen component w (.ok a) v)
    (h' : Cycled observer seen components v v') :
    Cycled observer seen (component :: components) w v' := by
  obtain ⟨hhead, htail⟩ := List.nodup_cons.mp hnodup
  have hsound := hready.sound
  have hsound' : Incidents.Sound v.db :=
    Incidents.sound_of_reachable (hready.reachable.run h.moves.run)
  refine ⟨(h.moves.mono (by simp)).trans
    (h'.moves.mono fun c hc => List.mem_cons_of_mem _ hc), ?_⟩
  intro before c after heq incident hdue
  cases before with
  | nil =>
    obtain ⟨rfl, rfl⟩ := List.cons.inj heq
    obtain ⟨hget, hcomponent⟩ := row_of_due hsound hdue
    have hne (new) (hget' : v.db.incidents.get? incident.id = some new) :
        new.component ∉ components := by
      have hmem := component_moves h.moves hget (by simp [hcomponent]) hget'
      rwa [List.mem_singleton.mp hmem]
    obtain ⟨hacted, hidle⟩ := h.acted incident hdue
    refine ⟨fun hcond => (hacted hcond.1).moves h'.moves hne, fun hcond => ?_⟩
    exact (hidle (not_not.mp fun hok => hcond ⟨hok, by simp⟩)).moves h'.moves hne
  | cons b before =>
    obtain ⟨rfl, rfl⟩ := List.cons.inj heq
    have hne : ∀ d ∈ before ++ c :: after, d ∉ [component] := by
      rintro d hd hmem
      exact hhead (List.mem_singleton.mp hmem ▸ hd)
    have hdue' := due_moves hsound hsound' h.moves (hne c (by simp)) hdue
    have hcond : (¬isBool seen.readiness "ok" true ∧
          ∀ d ∈ component :: before, ¬Stops observer seen d w) ↔
        ¬isBool seen.readiness "ok" true ∧ ∀ d ∈ before, ¬Stops observer seen d v := by
      have hiff (d) (hd : d ∈ before) : Stops observer seen d v ↔ Stops observer seen d w :=
        stops_moves hsound hsound' h.moves (hne d (List.mem_append_left _ hd))
      constructor
      · rintro ⟨hok, hstops⟩
        exact ⟨hok, fun d hd => (hiff d hd).not.mpr (hstops d (List.mem_cons_of_mem _ hd))⟩
      · rintro ⟨hok, hstops⟩
        refine ⟨hok, fun d hd => ?_⟩
        rcases List.mem_cons.mp hd with rfl | hd
        · exact (h.ended.mp ⟨a, rfl⟩).resolve_left hok
        · exact (hiff d hd).not.mp (hstops d hd)
    obtain ⟨hacted, hidle⟩ := h'.acted before c after rfl incident hdue'
    exact ⟨fun hc => (hacted (hcond.mp hc)).earlier h.moves, fun hc => hidle (hcond.not.mp hc)⟩

/-- A cycle that is stopped by its first component does nothing for the others. -/
lemma Cycled.stopped {α : Type} {e : PyError} (hready : Ready observer seen component w)
    (hnodup : (component :: components).Nodup)
    (h : Handled observer seen component w (.error e : Except PyError α) v) :
    Cycled observer seen (component :: components) w v := by
  have hsound := hready.sound
  obtain ⟨hok, hstops⟩ : ¬isBool seen.readiness "ok" true ∧ Stops observer seen component w := by
    have hended := h.ended.not.mp fun ⟨_, h⟩ => (nomatch h)
    simpa only [not_or, not_not] using hended
  refine ⟨h.moves.mono (by simp), fun before c after heq incident hdue => ?_⟩
  cases before with
  | nil =>
    obtain ⟨rfl, rfl⟩ := List.cons.inj heq
    exact ⟨fun hcond => (h.acted incident hdue).1 hcond.1, fun hcond => absurd ⟨hok, by simp⟩ hcond⟩
  | cons b before =>
    obtain ⟨rfl, rfl⟩ := List.cons.inj heq
    refine ⟨fun hcond => absurd hstops (hcond.2 _ (List.mem_cons_self ..)), fun _ => ?_⟩
    obtain ⟨hget, hcomponent⟩ := row_of_due hsound hdue
    have hne : incident.component ∉ [component] := by
      rw [hcomponent]
      intro hmem
      refine (List.nodup_cons.mp hnodup).1 (List.mem_singleton.mp hmem ▸ ?_)
      simp
    refine ⟨incident, (h.moves.others _ _ hne).mpr hget, fun hesc => ?_, hdue.mission⟩
    have hstate := hdue.state
    simp [hesc] at hstate

lemma ends_observeComponents : ∀ {components : List String} {w : World}, components.Nodup →
    (∀ component ∈ components, Ready observer seen component w) →
    Ends (observeComponents observer seen false components) w
      fun _ => Cycled observer seen components w
  | [], w, _, _ => Ends.ret ⟨.refl w, fun before _ _ heq => by simp at heq⟩
  | component :: components, w, hnodup, hready => by
    have hfirst := hready component (List.mem_cons_self ..)
    refine Ends.bind (ends_observeComponent hfirst) (fun _ v h => ?_) fun e v h => ?_
    · have hlater : ∀ c ∈ components, Ready observer seen c v := fun c hc =>
        ⟨hfirst.reachable.run h.moves.run, h.moves.fresh hfirst.fresh,
          (hready c (List.mem_cons_of_mem _ hc)).known, hfirst.storage⟩
      refine Ends.bind (ends_observeComponents (List.nodup_cons.mp hnodup).2 hlater)
        (fun _ v' h' => Ends.ret ?_) fun e v' h' => ?_
      · exact .cons hfirst hnodup h h'
      · exact .cons hfirst hnodup h h'
    · exact .stopped hfirst hnodup h

end Cycle

/-! ### Agreement -/

/-- A recovery that is due is taken up by the cycle, unless readiness is confirmed as a whole or
the cycle is stopped by a component that is handled before. -/
theorem cycle_acts_iff {observer : RecoveryObserver} {seen : Observation} {w : World}
    (hw : Reachable observer.recovery w) (hfresh : Fresh w)
    (hstorage : ¬storageCritical seen.readiness) {before after : List String} {component : String}
    (hcomponents : recoveryComponents = before ++ component :: after) {incident : RecoveryIncident}
    (hdue : Due observer seen component incident w) :
    Acted incident w ((runOnce observer seen false).run w).2 ↔
      ¬isBool seen.readiness "ok" true ∧ ∀ c ∈ before, ¬Stops observer seen c w := by
  have hends : Ends (runOnce observer seen false) w
      fun _ => Cycled observer seen recoveryComponents w := by
    rw [runOnce, if_neg hstorage]
    exact ends_observeComponents (by decide) fun c hc => ⟨hw, hfresh, hc, hstorage⟩
  obtain ⟨hacted, hidle⟩ := hends.acted before component after hcomponents incident hdue
  exact ⟨fun h => not_not.mp fun hcond => (hidle hcond).not_acted h, hacted⟩

/-- The MCP server has been found down three times. -/
def mcpFailing : World :=
  play .defaults {} [(0, .observeFailure "mcp" none), (30, .observeFailure "mcp" none),
    (30, .observeFailure "mcp" none)]

/-- Its service is inactive, and readiness says `ok` or not. -/
def mcpInactive (ok : Bool) : Observation where
  readiness := [("ok", .bool ok)]
  statuses component := if component = "mcp" then some [("active_state", .str "inactive")] else none

/-- The default threshold is one that an observer may have. -/
lemma defaultThreshold_ge : (2 : ℤ) ≤ 3 := by decide

def defaultObserver : RecoveryObserver where
  recovery := .defaults
  missions := ⟨false⟩
  failureThreshold_ge := defaultThreshold_ge

lemma reachable_mcpFailing : Reachable {} mcpFailing :=
  reachable_play ⟨{}, rfl, rfl, .refl⟩ (by decide)

/-- Three identifiers have been drawn, and the incident has the first. -/
lemma fresh_mcpFailing : Fresh mcpFailing := by
  have huuids : mcpFailing.uuids = fun n => toString n := rfl
  have hdrawn : mcpFailing.drawn = 3 := by decide
  have hmissions : mcpFailing.db.missions.rows = [] := by decide
  have hsteps : mcpFailing.db.steps.rows = [] := by decide
  have hattempts : mcpFailing.db.attempts.rows.map key = [] := by decide
  have hincidents : mcpFailing.db.incidents.rows.map key = ["0"] := by decide
  have hlinked : mcpFailing.db.incidents.rows.all (·.recoveryMissionId.isNone) = true := by
    decide
  have hinj {m n : ℕ} (h : mcpFailing.uuids m = mcpFailing.uuids n) : m = n := by
    have hdigits := congrArg (fun id => Nat.ofDigitChars 10 (String.toList id) 0) h
    simpa [huuids, Nat.toString_eq_repr] using hdigits
  have hget {R : Type} [Keyed R String] {t : Table R} {ks : List String}
      (hkeys : t.rows.map key = ks) {id : String} (hid : id ∉ ks) : t.get? id = none := by
    rw [Option.eq_none_iff_forall_ne_some]
    intro r hr
    refine hid (hkeys ▸ List.mem_map.mpr ⟨r, Table.mem_of_get? hr, Table.key_of_get? hr⟩)
  have hnew {n : ℕ} (hn : mcpFailing.drawn ≤ n) : mcpFailing.uuids n ∉ ["0"] := by
    intro hmem
    have hzero : n = 0 := hinj (List.mem_singleton.mp hmem)
    rw [hzero, hdrawn] at hn
    exact absurd hn (by decide)
  refine ⟨fun n _ => hget (by rw [hmissions]; rfl) List.not_mem_nil,
    fun n _ => hget (by rw [hsteps]; rfl) List.not_mem_nil, fun n _ step hstep => ?_,
    fun n hn => hget hincidents (hnew hn), fun n _ incident hmem hmission => ?_,
    fun n _ => hget hattempts List.not_mem_nil, fun m n _ _ h => hinj h, fun n _ h => ?_⟩
  · rw [hsteps] at hstep
    cases hstep
  · have hnone := List.all_eq_true.mp hlinked incident hmem
    rw [hmission] at hnone
    cases hnone
  · have hempty := congrArg String.length h
    simp [huuids, Nat.toString_eq_repr] at hempty

lemma due_mcpFailing (ok : Bool) :
    ∃ incident, Due defaultObserver (mcpInactive ok) "mcp" incident mcpFailing := by
  have hactive : (activeOf "mcp" mcpFailing).any (fun incident =>
      incident.state = .diagnosing && incident.recoveryMissionId.isNone &&
        incident.lastRecoveryAttemptAt.isNone &&
        3 ≤ failuresAfter defaultObserver incident mcpFailing.now) = true := by decide
  have hattempts : mcpFailing.db.attempts.rows.map key = [] := by decide
  have hdown : ∀ ok, serviceDown (state ((mcpInactive ok).statuses "mcp")) = true := by
    decide
  cases hfound : activeOf "mcp" mcpFailing with
  | none =>
    rw [hfound] at hactive
    cases hactive
  | some incident =>
    rw [hfound, Option.any_some] at hactive
    simp only [Bool.and_eq_true, decide_eq_true_eq, Option.isNone_iff_eq_none] at hactive
    obtain ⟨⟨⟨hstate, hmission⟩, hlast⟩, hfailures⟩ := hactive
    refine ⟨incident, ⟨hfound, hdown ok, hfailures, hmission⟩, by simp [hstate], ?_, ?_⟩
    · rw [RecoveryService.countedAttempts, List.map_eq_nil_iff.mp hattempts, List.filter_nil]
      decide
    · intro last h
      cases hlast.symm.trans h

lemma not_stops_app (ok : Bool) :
    ∀ c ∈ ["app"], ¬Stops defaultObserver (mcpInactive ok) c mcpFailing := by
  have hup : ∀ ok, serviceDown (state ((mcpInactive ok).statuses "app")) = false := by
    decide
  rintro c hc ⟨incident, hripe, -⟩
  obtain rfl := List.mem_singleton.mp hc
  have hdown := hripe.down
  rw [hup ok] at hdown
  cases hdown

/-- With readiness not confirmed, the recovery that is due is taken up. -/
theorem cycle_acts_mcpFailing : ∃ incident,
    Due defaultObserver (mcpInactive false) "mcp" incident mcpFailing ∧
      Acted incident mcpFailing
        ((runOnce defaultObserver (mcpInactive false) false).run mcpFailing).2 := by
  obtain ⟨incident, hdue⟩ := due_mcpFailing false
  have hcomponents : recoveryComponents = ["app"] ++ "mcp" :: ["proxy", "tunnel", "database"] := rfl
  exact ⟨incident, hdue, (cycle_acts_iff reachable_mcpFailing fresh_mcpFailing (by decide)
    hcomponents hdue).mpr ⟨by decide, not_stops_app false⟩⟩

/-- Readiness says nothing of the MCP server. While it is confirmed the cycle counts the failures
of the server, and leaves it down. -/
theorem cycle_idles_mcpFailing : ¬∀ (observer : RecoveryObserver) (seen : Observation) (w : World),
    Reachable observer.recovery w → Fresh w → ¬storageCritical seen.readiness →
      ∀ component ∈ recoveryComponents, ∀ incident, Due observer seen component incident w →
        Acted incident w ((runOnce observer seen false).run w).2 := by
  intro h
  obtain ⟨incident, hdue⟩ := due_mcpFailing true
  have hacted := h defaultObserver (mcpInactive true) mcpFailing reachable_mcpFailing
    fresh_mcpFailing (by decide) "mcp" (by decide) incident hdue
  have hidle : (((runOnce defaultObserver (mcpInactive true) false).run
      mcpFailing).2.db.incidents.rows.all fun row =>
        row.state ≠ .escalated && row.recoveryMissionId.isNone) = true := by decide
  obtain ⟨new, hget, h⟩ := hacted
  have hnew := List.all_eq_true.mp hidle new (Table.mem_of_get? hget)
  simp only [Bool.and_eq_true, decide_eq_true_eq, Option.isNone_iff_eq_none] at hnew
  rcases h with hstate | ⟨mission, hmission, -⟩
  · exact hnew.1 hstate
  · cases hnew.2.symm.trans hmission

end Agreement
end AiHq
