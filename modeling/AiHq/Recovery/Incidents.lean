import AiHq.Recovery.Runs

/-!
# The life of an incident

An incident is active while it holds the key of its component. When it is resolved or escalated
it gives the key up, and the component can have another one.
-/

namespace AiHq

open Concurrent Relational Recovery

namespace Incidents

variable (service : RecoveryService)

/-- The states in which an incident is over. -/
def Terminal (incident : RecoveryIncident) : Prop :=
  incident.state = .resolved ∨ incident.state = .escalated

instance : DecidablePred Terminal := fun incident => by
  unfold Terminal
  infer_instance

/-- The active key goes with the state and the component, and no other incident has it. -/
structure Sound (db : Database) : Prop where
  active : ∀ incident ∈ db.incidents.rows, incident.activeKey ≠ none ↔ ¬Terminal incident
  named : ∀ incident ∈ db.incidents.rows, ∀ key, incident.activeKey = some key →
    key = "dripvid:" ++ incident.component
  unique : ∀ incident ∈ db.incidents.rows, ∀ incident' ∈ db.incidents.rows,
    incident.component = incident'.component → incident.activeKey ≠ none →
      incident'.activeKey ≠ none → incident = incident'

/-- A mission that an incident has stays its mission. -/
def MissionKept (old new : RecoveryIncident) : Prop :=
  ∀ missionId, old.recoveryMissionId = some missionId → new.recoveryMissionId = some missionId

/-- What is settled about an incident once it is over. -/
def Settled (old new : RecoveryIncident) : Prop :=
  Terminal old → new.state = old.state ∧ new.resolvedAt = old.resolvedAt ∧
    new.escalationReason = old.escalationReason ∧ new.verification = old.verification ∧
    new.diagnostics = old.diagnostics

variable {service} {closed : Option String} {now : Datetime} {db db' : Database}

/-! ### The key of an incident -/

/-- What replacing the row of an incident can do to its key. -/
lemma update_key {old new : RecoveryIncident} (h : Update service closed now old new)
    (hactive : old.activeKey ≠ none ↔ ¬Terminal old) :
    new.component = old.component ∧
      (new.activeKey = old.activeKey ∧ (new.activeKey ≠ none ↔ ¬Terminal new) ∨
        new.activeKey = none ∧ Terminal new) := by
  refine ⟨(by cases h <;> rfl), ?_⟩
  cases h with
  | diagnosed diagnostics _ => exact .inl ⟨rfl, hactive⟩
  | observed diagnostics hkey _ =>
    refine .inl ⟨rfl, fun _ => ?_, fun _ => hkey⟩
    have hnot := hactive.mp hkey
    unfold Terminal at hnot ⊢
    simp only
    split_ifs
    · decide
    · exact hnot
  | healed verification _ => exact .inr ⟨rfl, .inl rfl⟩
  | pending hkey _ => exact .inl ⟨rfl, fun _ => by simp [Terminal], fun _ => hkey⟩
  | attached missionId _ _ _ _ => exact .inl ⟨rfl, hactive⟩
  | claimed hkey _ => exact .inl ⟨rfl, fun _ => by simp [Terminal], fun _ => hkey⟩
  | verifying verification hkey => exact .inl ⟨rfl, fun _ => by simp [Terminal], fun _ => hkey⟩
  | resolved verification => exact .inr ⟨rfl, .inl rfl⟩
  | escalated reason diagnostics => exact .inr ⟨rfl, .inr rfl⟩

/-- Replacing the row of an incident by one that has the key, or is over without one. -/
lemma Sound.set {old new : RecoveryIncident} (h : Sound db)
    (hold : db.incidents.get? new.id = some old) (hcomponent : new.component = old.component)
    (hkey : new.activeKey = old.activeKey ∧ (new.activeKey ≠ none ↔ ¬Terminal new) ∨
      new.activeKey = none ∧ Terminal new) :
    Sound { db with incidents := db.incidents.set new } := by
  have hmem := Table.mem_of_get? hold
  have hheld : ∀ key, new.activeKey = some key → old.activeKey = some key := by
    intro key hnew
    rcases hkey with ⟨heq, -⟩ | ⟨hnone, -⟩
    · exact heq ▸ hnew
    · simp [hnone] at hnew
  have hother : ∀ r ∈ db.incidents.rows, key r ≠ key new → r.component = new.component →
      r.activeKey ≠ none → new.activeKey ≠ none → False := by
    intro r hr hne heq hactive hnew
    obtain ⟨held, hsome⟩ := Option.ne_none_iff_exists'.mp hnew
    have hold' : old.activeKey ≠ none := by simp [hheld held hsome]
    obtain rfl := h.unique r hr old hmem (heq.trans hcomponent) hactive hold'
    exact hne (Table.key_of_get? hold)
  refine ⟨fun r hr => ?_, fun r hr held hsome => ?_, fun r hr r' hr' heq hactive hactive' => ?_⟩
  · rcases Table.mem_set.mp hr with ⟨rfl, -⟩ | ⟨hr, -⟩
    · rcases hkey with ⟨-, hiff⟩ | ⟨hnone, hterm⟩
      · exact hiff
      · simp [hnone, hterm]
    · exact h.active r hr
  · rcases Table.mem_set.mp hr with ⟨rfl, -⟩ | ⟨hr, -⟩
    · rw [hcomponent]
      exact h.named old hmem held (hheld held hsome)
    · exact h.named r hr held hsome
  · rcases Table.mem_set.mp hr with ⟨rfl, -⟩ | ⟨hrow, hne⟩ <;>
      rcases Table.mem_set.mp hr' with ⟨rfl, -⟩ | ⟨hrow', hne'⟩
    · rfl
    · exact (hother r' hrow' hne' heq.symm hactive' hactive).elim
    · exact (hother r hrow hne heq hactive hactive').elim
    · exact h.unique r hrow r' hrow' heq hactive hactive'

/-- A first failure opens an incident under a key that no incident has. -/
lemma Sound.insert {component key : String} {incident : RecoveryIncident}
    {incidents : Table RecoveryIncident} (h : Sound db)
    (hkey : RecoveryService.activeKey component = .ok key)
    (hnone : RecoveryService.withActiveKey key db = none)
    (hactive : incident.activeKey = some key) (hcomponent : incident.component = component)
    (hstate : incident.state = .suspect)
    (hinsert : db.incidents.insert? incident = some incidents) :
    Sound { db with incidents } := by
  have hnew : key = "dripvid:" ++ component := by
    unfold RecoveryService.activeKey at hkey
    split_ifs at hkey
    exact (Except.ok.inj hkey).symm
  have hother : ∀ r ∈ db.incidents.rows, r.component = component → r.activeKey = none := by
    intro r hr heq
    rcases hheld : r.activeKey with _ | held
    · rfl
    · have hfree := List.find?_eq_none.mp hnone r hr
      rw [h.named r hr held hheld, heq, ← hnew] at hheld
      simp [hheld] at hfree
  have hrows := (Table.insert?_eq_some hinsert).2
  have hmem {r : RecoveryIncident} (hr : r ∈ incidents.rows) :
      r ∈ db.incidents.rows ∨ r = incident := by
    rw [hrows, List.mem_append, List.mem_singleton] at hr
    exact hr
  refine ⟨fun r hr => ?_, fun r hr held hsome => ?_, fun r hr r' hr' heq hheld hheld' => ?_⟩
  · rcases hmem hr with hr | rfl
    · exact h.active r hr
    · simp [hactive, Terminal, hstate]
  · rcases hmem hr with hr | rfl
    · exact h.named r hr held hsome
    · rw [hcomponent, ← hnew]
      exact (Option.some.inj (hactive.symm.trans hsome)).symm
  · rcases hmem hr with hr | rfl <;> rcases hmem hr' with hr' | rfl
    · exact h.unique r hr r' hr' heq hheld hheld'
    · exact absurd (hother r hr (heq.trans hcomponent)) hheld
    · exact absurd (hother r' hr' (heq.symm.trans hcomponent)) hheld'
    · rfl

/-- An attempt leaves the key alone. -/
lemma Sound.withAttempt {incident : RecoveryIncident} (h : Sound db)
    (hold : db.incidents.get? incident.id = some incident) (simulated : Bool) (now : Datetime) :
    Sound { db with incidents := db.incidents.set (withAttempt incident simulated now) } := by
  have hactive := h.active incident (Table.mem_of_get? hold)
  unfold Recovery.withAttempt
  split_ifs
  · exact h.set hold rfl (.inl ⟨rfl, hactive⟩)
  · refine h.set (?_ : _ = some incident) rfl (.inl ⟨rfl, hactive⟩)
    exact hold

lemma Sound.effect (h : Sound db) (heffect : Effect service closed now db db') : Sound db' := by
  cases heffect with
  | unchanged => exact h
  | opened hkey hnone hincident hinsert =>
    subst hincident
    exact h.insert hkey hnone rfl rfl rfl hinsert
  | updated hold hupdate =>
    obtain ⟨hcomponent, hkey⟩ := update_key hupdate (h.active _ (Table.mem_of_get? hold))
    exact h.set hold hcomponent hkey
  | @attempted incident attempt attempts hold _ _ _ _ _ =>
    have hset := h.withAttempt hold attempt.simulated now
    exact ⟨hset.active, hset.named, hset.unique⟩

lemma Sound.congr (h : Sound db) (hincidents : db'.incidents = db.incidents) : Sound db' := by
  obtain ⟨hactive, hkey, hunique⟩ := h
  rw [← hincidents] at hactive hkey hunique
  exact ⟨hactive, hkey, hunique⟩

lemma sound_of_reachable {w : World} (hw : Reachable service w) : Sound w.db := by
  refine hw.induct (J := fun _ db => Sound db) ?_ ?_ fun _ _ _ _ heffect h => h.effect heffect
  · intro _ db hincidents _
    refine ⟨?_, ?_, ?_⟩ <;> simp [hincidents, EmptyCollection.emptyCollection, Table.empty]
  · intro _ _ db db' hincidents _ _ h
    exact h.congr hincidents

/-! ### What a run keeps -/

lemma missionKept_refl (incident : RecoveryIncident) : MissionKept incident incident :=
  fun _ h => h

lemma missionKept_update {old new : RecoveryIncident} (h : Update service closed now old new) :
    MissionKept old new := by
  intro missionId hmission
  cases h with
  | attached missionId' _ _ hnone _ => simp [hnone] at hmission
  | _ => exact hmission

/-- Every effect keeps the incidents, if `F` allows what it does to their rows. -/
lemma keeps_effect {F : RecoveryIncident → RecoveryIncident → Prop} (hF : ∀ r, F r r)
    (hupdate : ∀ old new, Update service closed now old new → F old new)
    (hattempt : ∀ incident simulated, F incident (withAttempt incident simulated now))
    (h : Effect service closed now db db') : Table.Keeps F db.incidents db'.incidents := by
  cases h with
  | unchanged => exact .refl hF _
  | opened _ _ _ hinsert => exact Table.keeps_insert? hF hinsert
  | updated hold h => exact (Table.keeps_set_iff hF hold).mpr (hupdate _ _ h)
  | @attempted incident attempt _ hold _ _ _ _ _ =>
    have hid := (withAttempt_frame incident attempt.simulated now).1
    rw [← hid] at hold
    exact (Table.keeps_set_iff hF hold).mpr (hattempt incident attempt.simulated)

lemma keeps_next {F : RecoveryIncident → RecoveryIncident → Prop} (hF : ∀ r, F r r)
    (hupdate : ∀ closed now old new, Update service closed now old new → F old new)
    (hattempt : ∀ now incident simulated, F incident (withAttempt incident simulated now))
    {w w' : World} (h : Next service w w') : Table.Keeps F w.db.incidents w'.db.incidents := by
  cases h with
  | elapsed hincidents _ _ =>
    rw [hincidents]
    exact .refl hF _
  | called op => exact keeps_effect hF (hupdate _ _) (hattempt _) (leads_code service op w).effect

lemma missionKept_withAttempt (now : Datetime) (incident : RecoveryIncident) (simulated : Bool) :
    MissionKept incident (withAttempt incident simulated now) := by
  intro missionId hmission
  unfold withAttempt
  split_ifs <;> exact hmission

lemma missionKept_run {w w' : World} (h : Relation.ReflTransGen (Next service) w w') :
    Table.Keeps MissionKept w.db.incidents w'.db.incidents := by
  induction h with
  | refl => exact .refl missionKept_refl _
  | tail _ hnext ih =>
    refine ih.trans (fun _ _ _ h h' missionId hm => h' missionId (h missionId hm)) ?_
    exact keeps_next missionKept_refl (fun _ _ _ _ => missionKept_update) missionKept_withAttempt
      hnext

/-- The identifier of an attached mission is not empty. -/
lemma missionId_effect (h : ∀ incident ∈ db.incidents.rows, incident.recoveryMissionId ≠ some "")
    (heffect : Effect service closed now db db') :
    ∀ incident ∈ db'.incidents.rows, incident.recoveryMissionId ≠ some "" := by
  cases heffect with
  | unchanged => exact h
  | opened _ _ hincident hinsert =>
    intro r hr
    rw [(Table.insert?_eq_some hinsert).2, List.mem_append, List.mem_singleton] at hr
    rcases hr with hr | rfl
    · exact h r hr
    · simp [hincident]
  | updated hold hupdate =>
    intro r hr
    rcases Table.mem_set.mp hr with ⟨rfl, -⟩ | ⟨hr, -⟩
    · have hmission := h _ (Table.mem_of_get? hold)
      cases hupdate with
      | attached missionId _ _ _ hnonempty => simpa using hnonempty
      | _ => exact hmission
    · exact h r hr
  | @attempted incident attempt _ hold _ _ _ _ _ =>
    intro r hr
    rcases Table.mem_set.mp hr with ⟨rfl, -⟩ | ⟨hr, -⟩
    · have hmission := h _ (Table.mem_of_get? hold)
      split_ifs <;> exact hmission
    · exact h r hr

lemma missionId_of_reachable {w : World} (hw : Reachable service w) :
    ∀ incident ∈ w.db.incidents.rows, incident.recoveryMissionId ≠ some "" := by
  refine hw.induct
    (J := fun _ db => ∀ incident ∈ db.incidents.rows, incident.recoveryMissionId ≠ some "") ?_ ?_
    fun _ _ _ _ heffect h => missionId_effect h heffect
  · intro _ db hincidents _
    simp [hincidents, EmptyCollection.emptyCollection, Table.empty]
  · intro _ _ db db' hincidents _ _ h
    rwa [hincidents]

/-- Incident invariant: in every reachable state the active key goes with the state and the
component, no two incidents of a component are active, and no run takes a mission away. -/
theorem incident_invariant (service : RecoveryService) {w : World} (hw : Reachable service w) :
    Sound w.db ∧ ∀ w', Relation.ReflTransGen (Next service) w w' →
      Table.Keeps MissionKept w.db.incidents w'.db.incidents :=
  ⟨sound_of_reachable hw, fun _ h => missionKept_run h⟩

/-- A component fails, recovers, and fails again. -/
def twoFailures : List (ℤ × Operation) :=
  [(0, .observeFailure "app" none), (30, .resolveIfHealthy "app" none),
    (30, .observeFailure "app" none), (0, .markRecoveryPending "1"), (0, .attachMission "1" "m")]

theorem incident_invariant_twoFailures : Sound (play {} {} twoFailures).db ∧
    ∀ w', Relation.ReflTransGen (Next {}) (play {} {} twoFailures) w' →
      Table.Keeps MissionKept (play {} {} twoFailures).db.incidents w'.db.incidents :=
  incident_invariant {} (reachable_play ⟨{}, rfl, rfl, .refl⟩ (by decide))

/-! ### Incidents that are over -/

/-- The call writes to the incident what it holds already. -/
def Repeats (incident : RecoveryIncident) (now : Datetime) : Operation → Prop
  | .resolve _ verification => incident.state = .resolved ∧ incident.resolvedAt = some now ∧
      incident.verification = boundedMapping verification
  | .escalate _ reason diagnostics => incident.state = .escalated ∧
      incident.resolvedAt = some now ∧
      incident.escalationReason = some (slice reason 2048) ∧
      (diagnostics = none ∨ incident.diagnostics = boundedMapping diagnostics)
  | _ => True

/-- The row that a call which closes an incident writes. -/
def closedRow (now : Datetime) (old : RecoveryIncident) : Operation → RecoveryIncident
  | .resolve _ verification =>
    { old with
      state := .resolved, activeKey := none, consecutiveFailures := 0, resolvedAt := some now,
      lastObservedAt := now, verification := boundedMapping verification }
  | .escalate _ reason diagnostics =>
    { old with
      state := .escalated, activeKey := none, escalationReason := some (slice reason 2048),
      resolvedAt := some now, lastObservedAt := now,
      diagnostics := match diagnostics with
        | none => old.diagnostics
        | some _ => boundedMapping diagnostics }
  | _ => old

/-- A call that closes an incident is not made once it is over, unless to write the same. -/
def Careful (op : Operation) (w : World) : Prop :=
  ∀ incidentId, op.closes = some incidentId → ∀ incident,
    w.db.incidents.get? incidentId = some incident → Terminal incident → Repeats incident w.now op

lemma settled_refl (incident : RecoveryIncident) : Settled incident incident :=
  fun _ => ⟨rfl, rfl, rfl, rfl, rfl⟩

lemma settled_trans (r₁ r₂ r₃ : RecoveryIncident) (h : Settled r₁ r₂) (h' : Settled r₂ r₃) :
    Settled r₁ r₃ := by
  intro hterm
  obtain ⟨hstate, hat, hreason, hverification, hdiagnostics⟩ := h hterm
  have hterm' : Terminal r₂ := by
    unfold Terminal
    rwa [hstate]
  obtain ⟨hstate', hat', hreason', hverification', hdiagnostics'⟩ := h' hterm'
  exact ⟨hstate'.trans hstate, hat'.trans hat, hreason'.trans hreason,
    hverification'.trans hverification, hdiagnostics'.trans hdiagnostics⟩

/-- All other operations ask for the active key before they write. -/
lemma settled_update {old new : RecoveryIncident} (h : Update service none now old new)
    (hactive : old.activeKey ≠ none ↔ ¬Terminal old) : Settled old new := by
  intro hterm
  cases h with
  | resolved _ hclosed => cases hclosed
  | escalated _ _ hclosed => cases hclosed
  | _ => exact absurd hterm (hactive.mp ‹_›)

lemma settled_withAttempt (incident : RecoveryIncident) (simulated : Bool) :
    Settled incident (withAttempt incident simulated now) := by
  unfold withAttempt
  split_ifs
  · exact settled_refl incident
  · exact fun _ => ⟨rfl, rfl, rfl, rfl, rfl⟩

lemma settled_effect (hsound : Sound db) (h : Effect service none now db db') :
    Table.Keeps Settled db.incidents db'.incidents := by
  cases h with
  | unchanged => exact .refl settled_refl _
  | opened _ _ _ hinsert => exact Table.keeps_insert? settled_refl hinsert
  | updated hold h =>
    have hactive := hsound.active _ (Table.mem_of_get? hold)
    exact (Table.keeps_set_iff settled_refl hold).mpr (settled_update h hactive)
  | @attempted incident attempt _ hold _ _ _ _ _ =>
    have hid := (withAttempt_frame incident attempt.simulated now).1
    rw [← hid] at hold
    exact (Table.keeps_set_iff settled_refl hold).mpr
      (settled_withAttempt incident attempt.simulated)

section Closing

variable {f : Moment → Database → Except PyError (RecoveryIncident × Database)} {message : String}
  {incidentId : String} {w : World}

/-- A transaction that replaces the row of an incident in any state. -/
lemma keeps_settled_closing {ev : Except PyError RecoveryIncident → Event}
    (new : RecoveryIncident → RecoveryIncident) (hid : ∀ old, (new old).id = old.id)
    (hf : f w.moment w.db = (RecoveryService.getIncidentTx incidentId w.db).bind fun old =>
      RecoveryService.save (new old) w.db) :
    Table.Keeps Settled w.db.incidents
        ((RecoveryService.persistedOrRefused message (.session f ev)).run w).2.db.incidents ↔
      ∀ old, w.db.incidents.get? incidentId = some old → Settled old (new old) := by
  obtain ⟨hok, herror⟩ := run_persistedOrRefused (n := 0) message f ev w
  rw [Py.session]
  cases hget : w.db.incidents.get? incidentId with
  | none =>
    rw [RecoveryService.getIncidentTx, hget] at hf
    obtain ⟨e', hrun⟩ := herror _ hf
    rw [hrun]
    refine ⟨fun _ _ h => ?_, fun _ => .refl settled_refl _⟩
    cases h
  | some old =>
    rw [RecoveryService.getIncidentTx, hget] at hf
    rw [hok _ _ hf]
    have hkey : (new old).id = incidentId := (hid old).trans (Table.key_of_get? hget)
    have hold : w.db.incidents.get? (key (new old)) = some old := by
      rw [key_recoveryIncident, hkey, hget]
    have hkeeps := Table.keeps_set_iff settled_refl hold
    exact ⟨fun h _ hsome => Option.some.inj hsome ▸ hkeeps.mp h, fun h => hkeeps.mpr (h old rfl)⟩

end Closing

lemma settled_closedRow (op : Operation) (old : RecoveryIncident) (hop : op.closes ≠ none) :
    Settled old (closedRow now old op) ↔ (Terminal old → Repeats old now op) := by
  refine forall_congr' fun _ => ?_
  cases op with
  | resolve incidentId verification =>
    constructor
    · rintro ⟨hstate, hat, -, hverification, -⟩
      exact ⟨hstate.symm, hat.symm, hverification.symm⟩
    · rintro ⟨hstate, hat, hverification⟩
      exact ⟨hstate.symm, hat.symm, rfl, hverification.symm, rfl⟩
  | escalate incidentId reason diagnostics =>
    constructor
    · rintro ⟨hstate, hat, hreason, -, hdiagnostics⟩
      refine ⟨hstate.symm, hat.symm, hreason.symm, ?_⟩
      cases diagnostics with
      | none => exact .inl rfl
      | some _ => exact .inr hdiagnostics.symm
    · rintro ⟨hstate, hat, hreason, hdiagnostics⟩
      refine ⟨hstate.symm, hat.symm, hreason.symm, rfl, ?_⟩
      rcases hdiagnostics with rfl | hdiagnostics
      · rfl
      · cases diagnostics with
        | none => rfl
        | some _ => exact hdiagnostics.symm
  | _ => exact absurd rfl hop

/-- A single operation leaves alone what is over exactly if the call is careful. -/
lemma keeps_settled_iff (service : RecoveryService) (op : Operation) {w : World}
    (hsound : Sound w.db) :
    Table.Keeps Settled w.db.incidents ((op.code service).run w).2.db.incidents ↔
      Careful op w := by
  by_cases hop : op.closes = none
  · refine ⟨fun _ incidentId hclosed => ?_, fun _ => ?_⟩
    · cases hop.symm.trans hclosed
    · exact settled_effect hsound (hop ▸ (leads_code service op w).effect)
  · have hrow : ∀ old, Settled old (closedRow w.now old op) ↔ _ := fun old =>
      settled_closedRow op old hop
    obtain ⟨incidentId, hclosed⟩ := Option.ne_none_iff_exists'.mp hop
    have hcareful : Careful op w ↔ ∀ old, w.db.incidents.get? incidentId = some old →
        Settled old (closedRow w.now old op) := by
      simp only [Careful, hclosed, Option.some.injEq, forall_eq', hrow]
    rw [hcareful]
    cases op with
    | resolve id verification =>
      cases hclosed
      rw [Operation.code, run_discard, RecoveryService.resolve, Py.run_clock_bind]
      exact keeps_settled_closing _ (fun _ => rfl) rfl
    | escalate id reason diagnostics =>
      have hreason : reason ≠ "" := by
        rintro rfl
        exact hop rfl
      rw [Operation.closes, if_neg hreason] at hclosed
      cases hclosed
      rw [Operation.code, run_discard, RecoveryService.escalate, if_neg hreason,
        Py.run_clock_bind]
      exact keeps_settled_closing _ (fun _ => rfl) rfl
    | _ => exact absurd rfl hop

/-- Over the run, nothing that is settled about an incident changes after it is over. -/
def Absorbing (service : RecoveryService) (w : World) (entries : List (ℤ × Operation)) : Prop :=
  ∀ before during after, entries = before ++ during ++ after →
    Table.Keeps Settled (play service w before).db.incidents
      (play service w (before ++ during)).db.incidents

/-- Each call of the run is careful, at the time it is made. -/
def CarefulRun (service : RecoveryService) (w : World) : List (ℤ × Operation) → Prop
  | [] => True
  | (delay, op) :: rest =>
    Careful op { w with now := w.now + seconds delay } ∧
      CarefulRun service ((op.code service).run { w with now := w.now + seconds delay }).2 rest

lemma sound_code {op : Operation} {w : World} (h : Sound w.db) :
    Sound ((op.code service).run w).2.db :=
  h.effect (leads_code service op w).effect

lemma absorbing_cons {w : World} {delay : ℤ} {op : Operation} {rest : List (ℤ × Operation)} :
    Absorbing service w ((delay, op) :: rest) ↔
      (∀ during after, rest = during ++ after → Table.Keeps Settled w.db.incidents
        (play service w ((delay, op) :: during)).db.incidents) ∧
      Absorbing service ((op.code service).run { w with now := w.now + seconds delay }).2 rest := by
  constructor
  · refine fun h => ⟨fun during after heq => ?_, fun before during after heq => ?_⟩
    · exact h [] ((delay, op) :: during) after (by rw [heq]; rfl)
    · exact h ((delay, op) :: before) during after (by rw [heq]; rfl)
  · rintro ⟨hfirst, hrest⟩ before during after heq
    cases before with
    | nil =>
      cases during with
      | nil => exact .refl settled_refl _
      | cons entry during =>
        obtain ⟨rfl, hafter⟩ := List.cons.inj heq
        exact hfirst during after hafter
    | cons entry before =>
      obtain ⟨rfl, hafter⟩ := List.cons.inj heq
      exact hrest before during after hafter

lemma absorbing_iff_of_sound {w : World} (hsound : Sound w.db)
    (entries : List (ℤ × Operation)) :
    Absorbing service w entries ↔ CarefulRun service w entries := by
  induction entries generalizing w with
  | nil =>
    refine ⟨fun _ => trivial, fun _ before during after heq => ?_⟩
    obtain ⟨hfirst, rfl⟩ := List.append_eq_nil_iff.mp heq.symm
    obtain ⟨rfl, rfl⟩ := List.append_eq_nil_iff.mp hfirst
    exact .refl settled_refl _
  | cons entry rest ih =>
    obtain ⟨delay, op⟩ := entry
    have hstep := keeps_settled_iff service op
      (w := { w with now := w.now + seconds delay }) hsound
    have hih := ih (w := ((op.code service).run { w with now := w.now + seconds delay }).2)
      (sound_code hsound)
    rw [absorbing_cons, CarefulRun, hih, ← hstep]
    refine and_congr_left fun hrest => ⟨fun h => h [] rest rfl, fun h during after heq => ?_⟩
    exact h.trans settled_trans (hih.mpr hrest [] during after heq)

/-- Terminal incidents: nothing that is settled about an incident changes after it is over,
exactly in the runs whose calls do not close an incident again. -/
theorem absorbing_iff (service : RecoveryService) {w : World} (hw : Reachable service w)
    (entries : List (ℤ × Operation)) :
    Absorbing service w entries ↔ CarefulRun service w entries :=
  absorbing_iff_of_sound (sound_of_reachable hw) entries

/-- An incident is escalated while its verification is under way, which then resolves it. -/
def resolvedLate : List (ℤ × Operation) :=
  [(0, .observeFailure "app" none), (30, .escalate "0" "recovery_attempt_failed" none),
    (5, .resolve "0" none)]

theorem not_absorbing_resolvedLate : ¬∀ (service : RecoveryService) (w : World),
    Reachable service w → ∀ entries, Absorbing service w entries := by
  intro h
  have hkeeps := h {} {} ⟨{}, rfl, rfl, .refl⟩ resolvedLate (resolvedLate.take 2)
    (resolvedLate.drop 2) [] rfl
  have hover : ((play {} {} (resolvedLate.take 2)).db.incidents.get? "0").map
      RecoveryIncident.state = some .escalated := by
    decide
  have hlater : ((play {} {} resolvedLate).db.incidents.get? "0").map
      RecoveryIncident.state = some .resolved := by
    decide
  obtain ⟨incident, hget, hstate⟩ := Option.map_eq_some_iff.mp hover
  obtain ⟨incident', hget', hstate'⟩ := Option.map_eq_some_iff.mp hlater
  obtain ⟨settled, hsettled, hsame⟩ := hkeeps "0" incident hget
  obtain rfl := Option.some.inj (hget'.symm.trans hsettled)
  have heq := (hsame (.inr hstate)).1
  rw [hstate, hstate'] at heq
  cases heq

/-- The same incident, closed once. -/
theorem absorbing_closedOnce : Absorbing {} {} (resolvedLate.take 2) := by
  refine (absorbing_iff {} ⟨{}, rfl, rfl, .refl⟩ _).mpr ⟨?_, ?_, trivial⟩
  · intro incidentId hclosed
    cases hclosed
  · intro incidentId hclosed incident hget hterm
    obtain rfl : "0" = incidentId := Option.some.inj hclosed
    have hopen : ((play {} {} (resolvedLate.take 1)).db.incidents.get? "0").all
        (fun incident => ¬Terminal incident) = true := by
      decide
    have hget' : (play {} {} (resolvedLate.take 1)).db.incidents.get? "0" = some incident := hget
    rw [hget', Option.all_some] at hopen
    exact absurd hterm (of_decide_eq_true hopen)

end Incidents
end AiHq
