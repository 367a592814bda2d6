import AiHq.Recovery.Runs

/-!
# The limits of recovery

The budget of a component is counted over all of its attempts; the cooldown is kept with the
incident, and a new incident of the component begins without one.
-/

namespace AiHq

open Concurrent Relational Recovery

namespace Limits

variable (service : RecoveryService)

/-- The real attempts that have been recorded for a component. -/
def realAttempts (component : String) (db : Database) : List RecoveryAttempt :=
  db.attempts.rows.filter fun a => a.component = component && !a.simulated

/-- The limits of a component, at an instant: every real attempt is a cooldown ago, and fewer
than the budget lie in the window. -/
structure Respected (component : String) (now : Datetime) (db : Database) : Prop where
  cooldown : ∀ a ∈ realAttempts component db,
    seconds service.cooldownSeconds ≤ now - a.attemptedAt
  budget : (((realAttempts component db).filter fun a =>
      now - seconds service.budgetWindowSeconds ≤ a.attemptedAt).length : ℤ) <
    service.attemptBudget

/-- No other incident of the component has had a real attempt within the cooldown. -/
def OthersCooled (incident : RecoveryIncident) (now : Datetime) (db : Database) : Prop :=
  ∀ a ∈ realAttempts incident.component db, a.incidentId ≠ incident.id →
    seconds service.cooldownSeconds ≤ now - a.attemptedAt

/-- The call allows a recovery of the incident. -/
def Allowed (incidentId : String) (w : World) : Prop :=
  ∃ allowance, ((service.canRecover incidentId).run w).1 = .ok allowance ∧
    allowance.allowed = true

/-! ### What runs keep -/

/-- Attempts carry the component of their incident, which knows when the last real one was. -/
structure Accounted (now : Datetime) (db : Database) : Prop where
  target : ∀ incident ∈ db.incidents.rows, incident.target = "dripvid"
  owner : ∀ a ∈ db.attempts.rows, ∃ incident, db.incidents.get? a.incidentId = some incident ∧
    a.component = incident.component ∧ a.target = incident.target ∧
    (a.simulated = false →
      ∃ last, incident.lastRecoveryAttemptAt = some last ∧ a.attemptedAt ≤ last)
  past : ∀ a ∈ db.attempts.rows, a.attemptedAt ≤ now

variable {service} {closed : Option String} {now : Datetime} {db db' : Database}

/-- No replacement of a row touches what attempts are accounted by. -/
lemma update_frame {old new : RecoveryIncident} (h : Update service closed now old new) :
    new.component = old.component ∧ new.target = old.target ∧
      new.lastRecoveryAttemptAt = old.lastRecoveryAttemptAt := by
  cases h <;> exact ⟨rfl, rfl, rfl⟩

/-- Replacing the row of an incident by one that accounts for as much. -/
lemma Accounted.set {old new : RecoveryIncident} (h : Accounted now db)
    (hold : db.incidents.get? new.id = some old) (hcomponent : new.component = old.component)
    (htarget : new.target = old.target)
    (hlast : ∀ t last, old.lastRecoveryAttemptAt = some last → t ≤ last → t ≤ now →
      ∃ last', new.lastRecoveryAttemptAt = some last' ∧ t ≤ last') :
    Accounted now { db with incidents := db.incidents.set new } := by
  refine ⟨fun incident hmem => ?_, fun a ha => ?_, h.past⟩
  · rcases Table.mem_set.mp hmem with ⟨rfl, -⟩ | ⟨hmem, -⟩
    · exact htarget.trans (h.target old (Table.mem_of_get? hold))
    · exact h.target incident hmem
  · obtain ⟨incident, hget, hcomp, htarg, hreal⟩ := h.owner a ha
    by_cases hid : a.incidentId = new.id
    · rw [hid] at hget ⊢
      obtain rfl : old = incident := Option.some.inj (hold.symm.trans hget)
      refine ⟨new, Table.get?_set_self (r := new) hold, hcomp.trans hcomponent.symm,
        htarg.trans htarget.symm, fun hsim => ?_⟩
      obtain ⟨last, hsome, hle⟩ := hreal hsim
      exact hlast _ last hsome hle (h.past a ha)
    · exact ⟨incident, (Table.get?_set_ne hid).trans hget, hcomp, htarg, hreal⟩

lemma Accounted.attempt {incident : RecoveryIncident} {attempt : RecoveryAttempt}
    {attempts : Table RecoveryAttempt} (h : Accounted now db)
    (hold : db.incidents.get? incident.id = some incident)
    (hincident : attempt.incidentId = incident.id) (htarget : attempt.target = incident.target)
    (hcomponent : attempt.component = incident.component) (hnow : attempt.attemptedAt = now)
    (hrows : attempts.rows = db.attempts.rows ++ [attempt]) :
    Accounted now { db with
      attempts, incidents := db.incidents.set (withAttempt incident attempt.simulated now) } := by
  obtain ⟨hid, hcomp, htarg⟩ := withAttempt_frame incident attempt.simulated now
  have hold' :
      db.incidents.get? (withAttempt incident attempt.simulated now).id = some incident := by
    rw [hid]
    exact hold
  have hset := h.set hold' hcomp htarg fun t last hsome hle hpast => by
    unfold withAttempt
    split_ifs
    · exact ⟨last, hsome, hle⟩
    · exact ⟨now, rfl, hpast⟩
  refine ⟨hset.target, fun a ha => ?_, fun a ha => ?_⟩
  · rw [hrows, List.mem_append, List.mem_singleton] at ha
    rcases ha with ha | rfl
    · exact hset.owner a ha
    · refine ⟨withAttempt incident a.simulated now, ?_, hcomponent.trans hcomp.symm,
        htarget.trans htarg.symm, fun hsim => ⟨now, ?_, hnow.le⟩⟩
      · rw [hincident, ← hid]
        exact Table.get?_set_self (r := withAttempt incident a.simulated now) hold'
      · rw [withAttempt, hsim]
        rfl
  · rw [hrows, List.mem_append, List.mem_singleton] at ha
    rcases ha with ha | rfl
    · exact hset.past a ha
    · exact hnow.le

lemma Accounted.effect (h : Accounted now db) (heffect : Effect service closed now db db') :
    Accounted now db' := by
  cases heffect with
  | unchanged => exact h
  | @opened component key incident incidents diagnostics id _ _ hincident hinsert =>
    obtain ⟨hnew, hrows⟩ := Table.insert?_eq_some hinsert
    refine ⟨fun r hr => ?_, fun a ha => ?_, h.past⟩
    · rw [hrows, List.mem_append, List.mem_singleton] at hr
      rcases hr with hr | rfl
      · exact h.target r hr
      · rw [hincident]
    · obtain ⟨owner, hget, hrest⟩ := h.owner a ha
      exact ⟨owner, Table.get?_insert?_of_some hinsert hget, hrest⟩
  | updated hold hupdate =>
    obtain ⟨hcomponent, htarget, hlast⟩ := update_frame hupdate
    refine h.set hold hcomponent htarget fun t last hsome hle _ => ?_
    exact ⟨last, hlast.trans hsome, hle⟩
  | @attempted incident attempt attempts hold hincident htarget hcomponent hnow hinsert =>
    exact h.attempt hold hincident htarget hcomponent hnow (Table.insert?_eq_some hinsert).2

lemma accounted_of_reachable {w : World} (hw : Reachable service w) : Accounted w.now w.db := by
  refine hw.induct ?_ ?_ fun _ _ _ _ heffect h => h.effect heffect
  · intro now db hincidents hattempts
    refine ⟨?_, ?_, ?_⟩
    · rw [hincidents]
      exact fun _ h => absurd h List.not_mem_nil
    · rw [hattempts]
      exact fun _ h => absurd h List.not_mem_nil
    · rw [hattempts]
      exact fun _ h => absurd h List.not_mem_nil
  · intro now now' db db' hincidents hattempts hnow h
    refine ⟨?_, ?_, ?_⟩
    · rw [hincidents]
      exact h.target
    · rw [hincidents, hattempts]
      exact h.owner
    · rw [hattempts]
      exact fun a ha => (h.past a ha).trans hnow

/-! ### What a call allows -/

/-- A recovery is allowed of a pending incident, within the budget and after the cooldown. -/
lemma canRecoverTx_allowed {incidentId : String} {allowance : RecoveryAllowance}
    (h : service.canRecoverTx incidentId now db = .ok allowance)
    (hallowed : allowance.allowed = true) :
    ∃ incident, db.incidents.get? incidentId = some incident ∧
      ((RecoveryService.countedAttempts incident
        (now - seconds service.budgetWindowSeconds) db).length : ℤ) < service.attemptBudget ∧
      ∀ last, incident.lastRecoveryAttemptAt = some last →
        seconds service.cooldownSeconds ≤ now - last := by
  simp only [RecoveryService.canRecoverTx, bind_eq_ok, getIncidentTx_eq_ok] at h
  obtain ⟨incident, hget, h⟩ := h
  refine ⟨incident, hget, ?_⟩
  split_ifs at h with hpending hbudget
  · cases h
    cases hallowed
  · cases h
    cases hallowed
  · split at h
    · next hnone =>
      exact ⟨not_le.mp hbudget, fun last hlast => by simp [hnone] at hlast⟩
    · next last hsome =>
      split_ifs at h with hcool
      · cases h
        cases hallowed
      · refine ⟨not_le.mp hbudget, fun last' hlast => ?_⟩
        obtain rfl := Option.some.inj (hsome.symm.trans hlast)
        exact not_lt.mp hcool

lemma Allowed.tx {incidentId : String} {w : World} (h : Allowed service incidentId w) :
    ∃ allowance, service.canRecoverTx incidentId w.now w.db = .ok allowance ∧
      allowance.allowed = true := by
  obtain ⟨allowance, hrun, hallowed⟩ := h
  refine ⟨allowance, ?_, hallowed⟩
  rw [RecoveryService.canRecover, Py.run_clock_bind, RecoveryService.persistedOrRefused,
    Prog.run_tryCatch, Py.run_query] at hrun
  split at hrun
  · next a w' heq =>
    cases hrun
    exact (Prod.mk.inj heq).1
  · next e w' heq => cases e <;> cases hrun

/-- All attempts have the one target, so that the budget is counted over the component. -/
lemma Accounted.countedAttempts (h : Accounted now db) {incident : RecoveryIncident}
    (hmem : incident ∈ db.incidents.rows) (windowStart : Datetime) :
    (realAttempts incident.component db).filter (fun a => windowStart ≤ a.attemptedAt) =
      RecoveryService.countedAttempts incident windowStart db := by
  rw [realAttempts, List.filter_filter, RecoveryService.countedAttempts]
  refine List.filter_congr fun a ha => ?_
  obtain ⟨owner, hget, -, htarget, -⟩ := h.owner a ha
  have htarget' : a.target = incident.target := by
    rw [htarget, h.target owner (Table.mem_of_get? hget), h.target incident hmem]
  simp only [htarget', decide_true, Bool.true_and]
  exact Bool.and_comm _ _

/-- Recovery limits: where a call allows a recovery in any reachable state, the limits of the
component are respected exactly if no other incident of the component has had a real attempt
within the cooldown. -/
theorem respected_iff (service : RecoveryService) {w : World} (hw : Reachable service w)
    {incidentId : String} (hallowed : Allowed service incidentId w) :
    ∃ incident, w.db.incidents.get? incidentId = some incident ∧
      (Respected service incident.component w.now w.db ↔
        OthersCooled service incident w.now w.db) := by
  obtain ⟨allowance, htx, hyes⟩ := hallowed.tx
  obtain ⟨incident, hget, hbudget, hcool⟩ := canRecoverTx_allowed htx hyes
  have hacc := accounted_of_reachable hw
  refine ⟨incident, hget, fun h a ha _ => h.cooldown a ha, fun h => ⟨fun a ha => ?_, ?_⟩⟩
  · by_cases hid : a.incidentId = incident.id
    · obtain ⟨hmem, hreal⟩ := List.mem_filter.mp ha
      obtain ⟨owner, howner, -, -, hlast⟩ := hacc.owner a hmem
      have hkey : incident.id = incidentId := Table.key_of_get? hget
      rw [hid, hkey] at howner
      obtain rfl := Option.some.inj (howner.symm.trans hget)
      simp only [Bool.and_eq_true, Bool.not_eq_true'] at hreal
      obtain ⟨last, hsome, hle⟩ := hlast hreal.2
      exact (hcool last hsome).trans (Int.sub_le_sub_left hle _)
    · exact h a ha hid
  · rw [hacc.countedAttempts (Table.mem_of_get? hget)]
    exact hbudget

/-! ### A component that fails again -/

/-- A first incident of the component, up to its one attempt. -/
def firstIncident : List (ℤ × Operation) :=
  [(0, .observeFailure "app" none), (30, .observeFailure "app" none),
    (30, .observeFailure "app" none), (0, .markRecoveryPending "0"), (0, .claimRecovery "0"),
    (5, .recordAttempt "0" (some "mission") false "executed" none), (0, .markVerifying "0" none)]

/-- It ends in good health after `delay` seconds, and the component fails again. -/
def secondIncident (delay : ℤ) : List (ℤ × Operation) :=
  [(delay, .resolveIfHealthy "app" none), (30, .observeFailure "app" none),
    (30, .observeFailure "app" none), (30, .observeFailure "app" none),
    (0, .markRecoveryPending "4")]

def failingAgain : World := play .defaults {} (firstIncident ++ secondIncident 30)

def failingLater : World := play .defaults {} (firstIncident ++ secondIncident 210)

lemma reachable_failingAgain : Reachable {} failingAgain :=
  reachable_play ⟨{}, rfl, rfl, .refl⟩ (by decide)

lemma reachable_failingLater : Reachable {} failingLater :=
  reachable_play ⟨{}, rfl, rfl, .refl⟩ (by decide)

lemma allowed_failingAgain : Allowed {} "4" failingAgain :=
  ⟨⟨true, "allowed", 1⟩, by decide, rfl⟩

lemma allowed_failingLater : Allowed {} "4" failingLater :=
  ⟨⟨true, "allowed", 1⟩, by decide, rfl⟩

/-- Two minutes after the attempt, a cooldown of five minutes does not keep the next one back. -/
theorem not_respected_failingAgain : ¬∀ (service : RecoveryService) (w : World),
    Reachable service w → ∀ incidentId, Allowed service incidentId w →
      ∀ incident, w.db.incidents.get? incidentId = some incident →
        Respected service incident.component w.now w.db := by
  intro h
  have hearly : (failingAgain.db.incidents.get? "4").any (fun incident =>
      (realAttempts incident.component failingAgain.db).any fun a =>
        failingAgain.now - a.attemptedAt < seconds 300) = true := by
    decide
  cases hget : failingAgain.db.incidents.get? "4" with
  | none =>
    rw [hget] at hearly
    cases hearly
  | some incident =>
    rw [hget, Option.any_some] at hearly
    obtain ⟨a, ha, hlt⟩ := List.any_eq_true.mp hearly
    have hrespected :=
      h {} failingAgain reachable_failingAgain "4" allowed_failingAgain incident hget
    exact absurd (hrespected.cooldown a ha) (not_le.mpr (of_decide_eq_true hlt))

/-- Five minutes after it the limits are respected. -/
theorem respected_failingLater : ∃ incident,
    failingLater.db.incidents.get? "4" = some incident ∧
      Respected {} incident.component failingLater.now failingLater.db := by
  obtain ⟨incident, hget, hiff⟩ :=
    respected_iff {} reachable_failingLater allowed_failingLater
  refine ⟨incident, hget, hiff.mpr fun a ha _ => ?_⟩
  have hlate : (failingLater.db.incidents.get? "4").all (fun incident =>
      (realAttempts incident.component failingLater.db).all fun a =>
        seconds 300 ≤ failingLater.now - a.attemptedAt) = true := by
    decide
  rw [hget, Option.all_some] at hlate
  exact of_decide_eq_true (List.all_eq_true.mp hlate a ha)

end Limits
end AiHq
