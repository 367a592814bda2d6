import AiHq.HostHelper.Server

/-!
# Confinement of the commands

Whatever bytes a client sends and whatever request is executed, the host runs one of a fixed set
of commands, and none without the credential.
-/

namespace AiHq

open Concurrent

namespace Confinement

/-- The units whose state may be shown. -/
def shownUnits : List String := (readServiceUnits ++ recoveryServiceUnits).map Prod.snd

/-- The units that may be restarted. -/
def restartedUnits : List String := (serviceUnits ++ recoveryServiceUnits).map Prod.snd

/-- The characters of release ids. -/
def IsReleaseChar (c : Char) : Prop :=
  ('A' ≤ c ∧ c ≤ 'Z') ∨ ('a' ≤ c ∧ c ≤ 'z') ∨ ('0' ≤ c ∧ c ≤ '9') ∨ c = '.' ∨ c = '_' ∨ c = '-'

/-- The commands that the host helper is for. -/
inductive Permitted : List String → Prop where
  | uptime : Permitted ["uptime", "-p"]
  | load : Permitted ["cat", "/proc/loadavg"]
  | memory : Permitted ["free", "-b"]
  | filesystem : Permitted ["df", "-B1", "/"]
  | showUnit {unit : String} (h : unit ∈ shownUnits) :
    Permitted ["systemctl", "show", unit, "--no-page",
      "--property=ActiveState,SubState,LoadState,UnitFileState"]
  | restart {unit : String} (h : unit ∈ restartedUnits) : Permitted ["systemctl", "restart", unit]
  | inspect {container : String} (h : container ∈ containerTargets.map Prod.snd) :
    Permitted ["docker", "inspect", container, "--format", "\x7b\x7bjson .State\x7d\x7d"]
  | journal {unit : String} {k : ℤ} (h : unit ∈ logTargets.map fun target => target.2.2)
    (hlow : 1 ≤ k) (hhigh : k ≤ 200) :
    Permitted ["journalctl", "-u", unit, "-n", toString k, "--no-pager", "-o", "short-iso"]
  | deploy : Permitted ["/opt/ai-hq/bin/controlled-deploy", "ai-hq"]
  | rollback {releaseId : String} (hlow : 1 ≤ releaseId.length) (hhigh : releaseId.length ≤ 128)
    (hchars : ∀ c ∈ releaseId.toList, IsReleaseChar c) :
    Permitted ["/opt/ai-hq/bin/controlled-rollback", "ai-hq", releaseId]

/-- What the executor shows: commands of those, and no request. -/
def Confined (_ : Host) (e : HostEvent) (_ : Host) : Prop :=
  (∀ request, e ≠ .executing request) ∧ ∀ argv outcome, e = .command argv outcome → Permitted argv

/-- The bytes decode to an object that carries the configured credential. -/
def Credentialed (server : HostHelperServer) (raw : ByteArray) : Prop :=
  ∃ payload, server.Decodes raw payload ∧
    Dict.get payload "credential" = some (.str server.credential)

/-! ### The executor -/

lemma confined_silent {host host' : Host} : Confined host .silent host' := by
  constructor
  · simp
  · simp

section Executor

variable {executor : HostExecutor} {request : HelperRequest} {argv : List String}
  {next : String → Helper HelperResponse}

lemma every_permitted (h : Permitted argv) (hnext : ∀ stdout, Every Confined (next stdout)) :
    Every Confined (HostExecutor.command request argv next) := by
  apply HostExecutor.every_command _ hnext
  intro host
  refine ⟨by simp, ?_⟩
  intro argv' outcome he
  cases he
  exact h

lemma every_hostHealth : Every Confined (HostExecutor.hostHealth request) := by
  apply every_permitted .uptime
  intro uptime
  apply every_permitted .load
  intro load
  exact (HostExecutor.every_ask fun _ => confined_silent).bind fun _ => .ret _

lemma every_hostResources : Every Confined (executor.hostResources request) := by
  apply every_permitted .load
  intro load
  apply every_permitted .memory
  intro memory
  apply every_permitted .filesystem
  intro filesystem
  exact HostExecutor.every_lift _

lemma every_dripvidReadiness : Every Confined (HostExecutor.dripvidReadiness request) := by
  unfold HostExecutor.dripvidReadiness
  split_ifs
  · exact .ret _
  · apply (HostExecutor.every_ask fun _ => confined_silent).bind
    intro payload
    exact (HostExecutor.every_lift _).bind fun _ => .ret _

/-- A unit of the tables is shown, and restarted before that if it may be. -/
lemma every_restart {unit : String} (h : unit ∈ restartedUnits) {data : String → HelperResponse} :
    Every Confined (HostExecutor.command request ["systemctl", "restart", unit] fun _ =>
      HostExecutor.command request (HostExecutor.showUnit unit) fun stdout =>
        return data stdout) := by
  have hshown : unit ∈ shownUnits := by
    rw [restartedUnits, List.map_append, List.mem_append] at h
    rw [shownUnits, readServiceUnits, List.map_append, List.map_append]
    exact List.mem_append.mpr (h.imp (List.mem_append_left _) id)
  apply every_permitted (.restart h)
  intro _
  apply every_permitted (.showUnit hshown)
  exact fun _ => .ret _

lemma every_serviceStatus : Every Confined (executor.serviceStatus request) := by
  unfold HostExecutor.serviceStatus
  dsimp only
  split
  · exact .ret _
  · next unit hunit =>
    have hmem := HostExecutor.mem_of_allowedEntry hunit
    apply every_permitted (.showUnit _) fun _ => .ret _
    rw [shownUnits, List.map_append]
    exact List.mem_append_left _ hmem

lemma every_serviceRestart : Every Confined (executor.serviceRestart request) := by
  unfold HostExecutor.serviceRestart
  split
  · exact .ret _
  · next unit hunit =>
    apply every_restart
    rw [restartedUnits, List.map_append]
    exact List.mem_append_left _ (HostExecutor.mem_of_allowedEntry hunit)

lemma every_serviceRecover : Every Confined (executor.serviceRecover request) := by
  unfold HostExecutor.serviceRecover
  split_ifs
  · exact .ret _
  · split
    · next component hparams =>
      split
      · exact .ret _
      · next unit hunit =>
        obtain ⟨l₁, l₂, heq, -⟩ := List.lookup_eq_some_iff.mp hunit
        apply every_restart
        rw [restartedUnits, List.map_append, heq]
        simp
    · exact .ret _

lemma every_deploymentDeploy : Every Confined (executor.deploymentDeploy request) := by
  unfold HostExecutor.deploymentDeploy
  split_ifs
  · exact .ret _
  · split
    · exact .ret _
    · next entrypoint hentry =>
      obtain rfl : entrypoint = ["/opt/ai-hq/bin/controlled-deploy", "ai-hq"] := by
        simpa [deployEntrypoints] using HostExecutor.mem_of_allowedEntry hentry
      exact every_permitted .deploy fun _ => .ret _

/-- What the executor and the transport ask of a release id. -/
lemma releaseChars {releaseId : String} (h : HostExecutor.isReleaseId releaseId = true) :
    1 ≤ releaseId.length ∧ releaseId.length ≤ 128 ∧ ∀ c ∈ releaseId.toList, IsReleaseChar c := by
  simp only [HostExecutor.isReleaseId, Bool.and_eq_true, decide_eq_true_eq, List.all_eq_true,
    Bool.or_eq_true] at h
  obtain ⟨⟨hne, hlength⟩, hall⟩ := h
  refine ⟨?_, hlength, fun c hc => ?_⟩
  · rw [Nat.one_le_iff_ne_zero]
    intro hzero
    exact hne (String.length_eq_zero_iff.mp hzero)
  · rcases hall c hc with halnum | hmark
    · have hcases : c.isAlpha = true ∨ c.isDigit = true := by
        simpa [Char.isAlphanum] using halnum
      simp only [Char.isAlpha, Char.isUpper, Char.isLower, Char.isDigit, Bool.or_eq_true,
        Bool.and_eq_true, decide_eq_true_eq] at hcases
      rcases hcases with (hupper | hlower) | hdigit
      · exact .inl hupper
      · exact .inr (.inl hlower)
      · exact .inr (.inr (.inl hdigit))
    · have hmarks : c = '.' ∨ c = '_' ∨ c = '-' := by simpa using hmark
      exact .inr (.inr (.inr hmarks))

lemma every_deploymentRollback : Every Confined (executor.deploymentRollback request) := by
  unfold HostExecutor.deploymentRollback
  split
  · exact .ret _
  · next entrypoint hentry =>
    split
    · next releaseId hparams =>
      split_ifs with hvalid
      · exact .ret _
      · obtain rfl : entrypoint = ["/opt/ai-hq/bin/controlled-rollback", "ai-hq"] := by
          simpa [rollbackEntrypoints] using HostExecutor.mem_of_allowedEntry hentry
        have hid : HostExecutor.isReleaseId releaseId = true := by simpa using hvalid
        obtain ⟨hlow, hhigh, hchars⟩ := releaseChars hid
        exact every_permitted (.rollback hlow hhigh hchars) fun _ => .ret _
    · exact .ret _

lemma every_containerStatus : Every Confined (executor.containerStatus request) := by
  unfold HostExecutor.containerStatus
  split
  · exact .ret _
  · next container hcontainer =>
    apply every_permitted (.inspect (HostExecutor.mem_of_allowedEntry hcontainer))
    intro stdout
    exact HostExecutor.every_lift _

lemma bounds_of_logLines {params : Dict} {lines : ℤ}
    (h : HostExecutor.logLines? params = some lines) : 1 ≤ lines ∧ lines ≤ 200 := by
  unfold HostExecutor.logLines? at h
  split at h
  · split_ifs at h with hbounds
    cases h
    exact hbounds
  · cases h

lemma every_logsRecent : Every Confined (executor.logsRecent request) := by
  unfold HostExecutor.logsRecent
  dsimp only
  split
  · exact .ret _
  · next source unit hunit =>
    split
    · exact .ret _
    · next lines hlines =>
      obtain ⟨hlow, hhigh⟩ := bounds_of_logLines hlines
      split_ifs
      · exact .ret _
      · apply every_permitted (.journal _ hlow hhigh) fun _ => .ret _
        obtain ⟨target, htarget, heq⟩ :=
          List.mem_map.mp (HostExecutor.mem_of_allowedEntry hunit)
        exact List.mem_map.mpr ⟨target, htarget, by rw [heq]⟩

/-- One case for each capability. -/
lemma every_execute : Every Confined (executor.execute request) := by
  unfold HostExecutor.execute
  cases request.capability with
  | hostHealth => exact every_hostHealth
  | hostResources => exact every_hostResources
  | dripvidReadiness => exact every_dripvidReadiness
  | serviceStatus => exact every_serviceStatus
  | serviceRestart => exact every_serviceRestart
  | serviceRecover => exact every_serviceRecover
  | deploymentDeploy => exact every_deploymentDeploy
  | deploymentRollback => exact every_deploymentRollback
  | containerStatus => exact every_containerStatus
  | logsRecent => exact every_logsRecent

end Executor

/-! ### The server -/

/-- Whatever bytes are sent and whatever request is executed, each command is one of the permitted
ones, and bytes without the configured credential cause none. -/
theorem commands_confined (server : HostHelperServer) (executor : HostExecutor) :
    (∀ raw, Every (fun _ e _ => ∀ argv outcome, e = .command argv outcome →
      Permitted argv ∧ Credentialed server raw) (server.handlePayload raw)) ∧
    ∀ request, Every (fun _ e _ => ∀ argv outcome, e = .command argv outcome → Permitted argv)
      (executor.execute request) := by
  constructor
  · intro raw
    apply HostHelperServer.every_handlePayload
    rintro request ⟨payload, hdecodes, hget, -⟩
    constructor
    · simp
    · apply every_execute.mono
      rintro host e host' ⟨-, hconfined⟩ argv outcome rfl
      exact ⟨hconfined argv outcome rfl, payload, hdecodes, hget⟩
  · intro request
    exact every_execute.mono fun _ _ _ hconfined => hconfined.2

end Confinement
end AiHq
