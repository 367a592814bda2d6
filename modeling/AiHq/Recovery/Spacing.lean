import AiHq.Recovery.Runs

/-!
# The spacing of failures

The count of an incident goes up only when nothing has been observed of it for an interval, so
as many intervals lie between its first and its last failure.
-/

namespace AiHq

open Concurrent Relational Recovery

namespace Spacing

variable (service : RecoveryService)

/-- The failures of an incident are an interval apart, and it is diagnosed once there are
enough of them. -/
structure Spaced (incident : RecoveryIncident) : Prop where
  counted : 1 ≤ incident.consecutiveFailures
  apart : seconds ((incident.consecutiveFailures - 1) * service.observationSeconds) ≤
    incident.lastFailureAt - incident.firstFailureAt
  observed : incident.lastFailureAt ≤ incident.lastObservedAt
  diagnosing : incident.state = .diagnosing →
    service.failureThreshold ≤ incident.consecutiveFailures

/-- Every active incident is spaced, and has been observed in the past. -/
def Kept (now : Datetime) (db : Database) : Prop :=
  ∀ incident ∈ db.incidents.rows, incident.activeKey ≠ none →
    Spaced service incident ∧ incident.lastObservedAt ≤ now

variable {service} {closed : Option String} {now : Datetime} {db db' : Database}
  {old new : RecoveryIncident}

/-! ### What an operation does to the count and its timestamps -/

lemma Spaced.of_frame (h : Spaced service old)
    (hfailures : new.consecutiveFailures = old.consecutiveFailures)
    (hfirst : new.firstFailureAt = old.firstFailureAt)
    (hlast : new.lastFailureAt = old.lastFailureAt)
    (hobserved : old.lastObservedAt ≤ new.lastObservedAt)
    (hstate : new.state = .diagnosing → old.state = .diagnosing) : Spaced service new where
  counted := hfailures ▸ h.counted
  apart := by
    rw [hfailures, hfirst, hlast]
    exact h.apart
  observed := hlast ▸ h.observed.trans hobserved
  diagnosing := fun hnew => hfailures ▸ h.diagnosing (hstate hnew)

/-- A failure that is counted is an interval after the last observation, so after the last
failure. -/
lemma Spaced.observe (h : Spaced service old) (diagnostics : Dict)
    (helapsed : seconds service.observationSeconds ≤ now - old.lastObservedAt) :
    Spaced service { old with
      consecutiveFailures := old.consecutiveFailures + 1, lastFailureAt := now,
      lastObservedAt := now, diagnostics,
      state := if old.state = .suspect ∧
          service.failureThreshold ≤ old.consecutiveFailures + 1 then .diagnosing
        else old.state } where
  counted := by
    have := h.counted
    dsimp only
    omega
  apart := by
    have hapart := h.apart
    have hobserved := h.observed
    simp only [seconds] at hapart helapsed ⊢
    linarith
  observed := le_rfl
  diagnosing := by
    intro hstate
    dsimp only at hstate ⊢
    split at hstate
    · next hthreshold => exact hthreshold.2
    · exact (h.diagnosing hstate).trans (by omega)

lemma spaced_update (hupdate : Update service closed now old new) (hactive : new.activeKey ≠ none)
    (h : Spaced service old) (hpast : old.lastObservedAt ≤ now) :
    Spaced service new ∧ new.lastObservedAt ≤ now := by
  cases hupdate with
  | diagnosed => exact ⟨h.of_frame rfl rfl rfl hpast id, le_rfl⟩
  | observed diagnostics _ helapsed => exact ⟨h.observe _ helapsed, le_rfl⟩
  | pending => exact ⟨h.of_frame rfl rfl rfl hpast nofun, le_rfl⟩
  | attached => exact ⟨h.of_frame rfl rfl rfl le_rfl id, hpast⟩
  | claimed => exact ⟨h.of_frame rfl rfl rfl le_rfl nofun, hpast⟩
  | verifying => exact ⟨h.of_frame rfl rfl rfl hpast nofun, le_rfl⟩
  | healed | resolved | escalated => exact absurd rfl hactive

lemma update_active (hupdate : Update service closed now old new) (hactive : new.activeKey ≠ none) :
    old.activeKey ≠ none := by
  cases hupdate <;> first | assumption | exact absurd rfl hactive

lemma Kept.set (h : Kept service now db) (hold : db.incidents.get? new.id = some old)
    (hnew : new.activeKey ≠ none → old.activeKey ≠ none ∧
      (Spaced service old → old.lastObservedAt ≤ now →
        Spaced service new ∧ new.lastObservedAt ≤ now)) :
    Kept service now { db with incidents := db.incidents.set new } := by
  intro incident hmem hactive
  rcases Table.mem_set.mp hmem with ⟨rfl, -⟩ | ⟨hmem, -⟩
  · obtain ⟨hheld, hspaced⟩ := hnew hactive
    obtain ⟨hs, hpast⟩ := h old (Table.mem_of_get? hold) hheld
    exact hspaced hs hpast
  · exact h incident hmem hactive

lemma Kept.effect (h : Kept service now db) (heffect : Effect service closed now db db') :
    Kept service now db' := by
  cases heffect with
  | unchanged => exact h
  | opened _ _ hincident hinsert =>
    intro r hr hactive
    rw [(Table.insert?_eq_some hinsert).2, List.mem_append, List.mem_singleton] at hr
    rcases hr with hr | rfl
    · exact h r hr hactive
    · subst hincident
      exact ⟨⟨le_rfl, by simp [seconds], le_rfl, nofun⟩, le_rfl⟩
  | updated hold hupdate =>
    exact h.set hold fun hactive => ⟨update_active hupdate hactive, spaced_update hupdate hactive⟩
  | @attempted incident attempt attempts hold _ _ _ _ _ =>
    have hid := (withAttempt_frame incident attempt.simulated now).1
    have hold' :
        db.incidents.get? (withAttempt incident attempt.simulated now).id = some incident := by
      rw [hid]
      exact hold
    change Kept service now { db with
      attempts, incidents := db.incidents.set (withAttempt incident attempt.simulated now) }
    refine h.set hold' fun hactive => ?_
    unfold withAttempt at hactive ⊢
    split_ifs at hactive ⊢
    · exact ⟨hactive, fun hs hpast => ⟨hs, hpast⟩⟩
    · exact ⟨hactive, fun hs hpast => ⟨hs.of_frame rfl rfl rfl le_rfl id, hpast⟩⟩

/-! ### Every run -/

lemma kept_of_reachable {w : World} (hw : Reachable service w) : Kept service w.now w.db := by
  refine hw.induct ?_ ?_ fun _ _ _ _ heffect h => h.effect heffect
  · intro now db hincidents _ incident hmem
    rw [hincidents] at hmem
    exact absurd hmem List.not_mem_nil
  · intro now now' db db' hincidents _ hnow h incident hmem hactive
    rw [hincidents] at hmem
    obtain ⟨hs, hpast⟩ := h incident hmem hactive
    exact ⟨hs, hpast.trans hnow⟩

/-- Every active incident is spaced, and one that is diagnosed has taken as many intervals as
the threshold asks for. -/
theorem spaced_of_reachable {w : World} (hw : Reachable service w) :
    ∀ incident ∈ w.db.incidents.rows, incident.activeKey ≠ none →
      Spaced service incident ∧ (incident.state = .diagnosing →
        seconds ((service.failureThreshold - 1) * service.observationSeconds) ≤
          incident.lastFailureAt - incident.firstFailureAt) := by
  intro incident hmem hactive
  obtain ⟨hs, -⟩ := kept_of_reachable hw incident hmem hactive
  refine ⟨hs, fun hstate => le_trans ?_ hs.apart⟩
  have hcount := hs.diagnosing hstate
  have hinterval : 0 ≤ service.observationSeconds := zero_le_one.trans service.observationSeconds_ge
  have hmul := Int.mul_le_mul_of_nonneg_right (Int.sub_le_sub_right hcount 1) hinterval
  exact Int.mul_le_mul_of_nonneg_right hmul (by decide)

/-- A burst of failures, of which three are an interval apart. -/
def burst : List (ℤ × Operation) :=
  [(0, .observeFailure "app" none), (10, .observeFailure "app" none),
    (20, .observeFailure "app" none), (29, .observeFailure "app" none),
    (1, .observeFailure "app" none)]

theorem spaced_of_reachable_burst : ∃ incident ∈ (play {} {} burst).db.incidents.rows,
    incident.state = .diagnosing ∧ Spaced {} incident ∧
      seconds 60 ≤ incident.lastFailureAt - incident.firstFailureAt := by
  refine ⟨_, .head _, rfl, ?_⟩
  have hreachable : Reachable {} (play {} {} burst) :=
    reachable_play ⟨{}, rfl, rfl, .refl⟩ (by decide)
  have hspaced := spaced_of_reachable hreachable _ (.head _) (Option.some_ne_none _)
  exact ⟨hspaced.1, hspaced.2 rfl⟩

end Spacing
end AiHq
