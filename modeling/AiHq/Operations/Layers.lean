import AiHq.Delivery.Service
import AiHq.Operations.Transport

/-!
# Agreement of the host-helper layers

The transport, the validation and the executor check the arguments of an operation each on its
own. They agree on a call when the validation reads the request as it was made and the executor
does not take its arguments for wrong.
-/

namespace AiHq

open Concurrent

namespace Layers

/-- The lists that a call has its target in. -/
def Listed (allowLists : HostAllowLists) (target : OperationalTarget) : TransportCall → Prop
  | .systemHealth => True
  | .serviceStatus => target.orKey target.hostHelperServiceTarget ∈
      allowLists.services ++ allowLists.diagnosticServices
  | .serviceLogs _ => target.orKey target.hostHelperLogTarget ∈
      allowLists.logs ++ allowLists.diagnosticLogs
  | _ => target.key ∈ allowLists.services

/-- The target has an entry in the table of the executor that the call is looked up in. -/
def HasEntryPoint (target : OperationalTarget) : TransportCall → Prop
  | .systemHealth => True
  | .serviceStatus => target.orKey target.hostHelperServiceTarget ∈ readServiceUnits.map Prod.fst
  | .serviceLogs _ => target.orKey target.hostHelperLogTarget ∈ logTargets.map Prod.fst
  | .serviceRestart => target.key ∈ serviceUnits.map Prod.fst
  | .serviceRecover _ => target.key = "dripvid"
  | .deploymentDeploy => target.key ∈ deployEntrypoints.map Prod.fst
  | .deploymentRollback _ => target.key ∈ rollbackEntrypoints.map Prod.fst

/-- The program answers that arguments are wrong. -/
def Wrong (p : Helper HelperResponse) (host : Host) : Prop :=
  ∃ response, (p.run host).1 = .ok response ∧
    (response.error = some "invalid parameters" ∨ response.error = some "unknown target")

/-- The validation reads the request that the call makes as it is, and the executor does not take
its arguments for wrong where the target has an entry point. -/
def Agree (executor : HostExecutor) (target : OperationalTarget) (call : TransportCall)
    (request : HelperRequest) : Prop :=
  validateRequest (.obj request.payload) executor.allowLists = .ok request ∧
    (HasEntryPoint target call → ∀ host, ¬Wrong (executor.execute request) host)

/-- What all layers take: no rollback, no more log lines than the executor serves where it serves
the log, and recoveries only of the components of `dripvid`. -/
def Common (target : OperationalTarget) : TransportCall → Prop
  | .serviceLogs lines => ∃ n, lines = .int n ∧
      (n ≤ maxLogLines ∨ ¬HasEntryPoint target (.serviceLogs lines))
  | .serviceRecover component => target.key = "dripvid" ∧
      ∃ text, component = .str text ∧ text ∈ recoveryComponentKeys
  | .deploymentRollback _ => False
  | _ => True

/-! ### The validation -/

section Validation

lemma orKey_ne (target : OperationalTarget) (name : Option String) : target.orKey name ≠ "" := by
  have hkey : target.key ≠ "" := by
    intro h
    apply target.key_given
    rw [h]
    decide
  unfold OperationalTarget.orKey
  split
  · split_ifs with h
    · exact hkey
    · exact h
  · exact hkey

end Validation

/-! ### The executor -/

section Executor

variable {executor : HostExecutor} {request : HelperRequest} {host : Host} {argv : List String}
  {next : String → Helper HelperResponse}

lemma not_wrong_success {target : Option String} {data : Dict} :
    ¬Wrong (.ret (HostExecutor.success request target data)) host := by
  rintro ⟨response, hrun, herror⟩
  cases hrun
  simp [HostExecutor.success] at herror

/-- A command that fails is no answer that arguments are wrong. -/
lemma not_wrong_command (h : ∀ stdout, ¬Wrong (next stdout) host) :
    ¬Wrong (HostExecutor.command request argv next) host := by
  rintro ⟨response, hrun, herror⟩
  rw [HostExecutor.run_command] at hrun
  cases hout : HostExecutor.stdoutOf request (host.command argv) with
  | ok stdout =>
    rw [hout] at hrun
    exact h stdout ⟨response, hrun, herror⟩
  | error failed =>
    rw [hout] at hrun
    cases hrun
    unfold HostExecutor.stdoutOf at hout
    split at hout
    · split_ifs at hout
      cases hout
      simp [HostExecutor.failure] at herror
    · cases hout
      simp [HostExecutor.failure] at herror
    · cases hout
      simp [HostExecutor.failure] at herror

/-- A name that is allowed and in the table has an entry. -/
lemma exists_allowedEntry {α : Type} {allowed : List String} {table : List (String × α)}
    {name : String} (hallowed : name ∈ allowed) (htable : name ∈ table.map Prod.fst) :
    ∃ x, HostExecutor.allowedEntry allowed table (some name) = some x := by
  simp only [HostExecutor.allowedEntry, if_pos hallowed]
  rw [← Option.isSome_iff_exists, List.lookup_isSome_iff]
  obtain ⟨entry, hentry, rfl⟩ := List.mem_map.mp htable
  exact ⟨entry, hentry, by simp⟩

variable {allowLists : HostAllowLists} {python : Interpreter} {name : String} {params : Dict}

lemma not_wrong_hostHealth : ¬Wrong (HostExecutor.hostHealth request) host := by
  apply not_wrong_command
  intro uptime
  apply not_wrong_command
  intro load
  exact not_wrong_success

lemma not_wrong_serviceStatus (hallowed : name ∈ allowLists.services ++ allowLists.diagnosticServices)
    (htable : name ∈ readServiceUnits.map Prod.fst) :
    ¬Wrong (HostExecutor.serviceStatus ⟨allowLists, python⟩ ⟨.serviceStatus, some name, params⟩)
      host := by
  obtain ⟨unit, hunit⟩ := exists_allowedEntry hallowed htable
  simp only [HostExecutor.serviceStatus, hunit]
  exact not_wrong_command fun _ => not_wrong_success

lemma not_wrong_serviceRestart (hallowed : name ∈ allowLists.services)
    (htable : name ∈ serviceUnits.map Prod.fst) :
    ¬Wrong (HostExecutor.serviceRestart ⟨allowLists, python⟩ ⟨.serviceRestart, some name, params⟩)
      host := by
  obtain ⟨unit, hunit⟩ := exists_allowedEntry hallowed htable
  simp only [HostExecutor.serviceRestart, hunit]
  exact not_wrong_command fun _ => not_wrong_command fun _ => not_wrong_success

lemma not_wrong_deploymentDeploy (hallowed : name ∈ allowLists.services)
    (htable : name ∈ deployEntrypoints.map Prod.fst) :
    ¬Wrong (HostExecutor.deploymentDeploy ⟨allowLists, python⟩ ⟨.deploymentDeploy, some name, []⟩)
      host := by
  obtain ⟨entrypoint, hentry⟩ := exists_allowedEntry hallowed htable
  simp only [HostExecutor.deploymentDeploy, hentry]
  exact not_wrong_command fun _ => not_wrong_success

/-- The components of the two sides are the same. -/
lemma exists_recoveryUnit {component : String} (h : component ∈ recoveryComponentKeys) :
    ∃ unit, recoveryServiceUnits.lookup component = some unit := by
  simp only [recoveryComponentKeys, List.mem_cons, List.not_mem_nil, or_false] at h
  rcases h with rfl | rfl | rfl | rfl | rfl
  · exact ⟨_, rfl⟩
  · exact ⟨_, rfl⟩
  · exact ⟨_, rfl⟩
  · exact ⟨_, rfl⟩
  · exact ⟨_, rfl⟩

lemma not_wrong_serviceRecover {component : String} (hallowed : "dripvid" ∈ allowLists.services)
    (hcomponent : component ∈ recoveryComponentKeys) :
    ¬Wrong (HostExecutor.serviceRecover ⟨allowLists, python⟩
      ⟨.serviceRecover, some "dripvid", [("component", .str component)]⟩) host := by
  obtain ⟨unit, hunit⟩ := exists_recoveryUnit hcomponent
  have hparam : HostExecutor.onlyParam "component" [("component", Json.str component)] =
      some (.str component) := rfl
  simp only [HostExecutor.serviceRecover, ne_eq, not_true_eq_false, hallowed, or_self, if_false,
    hparam, hunit]
  exact not_wrong_command fun _ => not_wrong_command fun _ => not_wrong_success

/-- The executor serves fewer lines than the validation takes. -/
lemma wrong_logsRecent {lines : ℤ} (hallowed : name ∈ allowLists.logs ++ allowLists.diagnosticLogs)
    (htable : name ∈ logTargets.map Prod.fst) (hlow : 1 ≤ lines) :
    Wrong (HostExecutor.logsRecent ⟨allowLists, python⟩
      ⟨.logsRecent, some name, [("lines", .int lines)]⟩) host ↔ maxLogLines < lines := by
  obtain ⟨⟨source, unit⟩, hunit⟩ := exists_allowedEntry hallowed htable
  have hsource : source = "journal" := by
    have hmem := HostExecutor.mem_of_allowedEntry hunit
    simp only [logTargets, List.map_cons, List.map_nil, List.mem_cons, Prod.mk.injEq,
      List.not_mem_nil, or_false] at hmem
    rcases hmem with h | h | h | h | h | h <;> exact h.1
  have hlines : HostExecutor.logLines? [("lines", Json.int lines)] =
      if 1 ≤ lines ∧ lines ≤ maxLogLines then some lines else none := rfl
  simp only [HostExecutor.logsRecent, hunit, hlines, hlow, true_and]
  by_cases hhigh : lines ≤ maxLogLines
  · rw [if_pos hhigh]
    simp only [hsource, ne_eq, not_true_eq_false, if_false]
    exact iff_of_false (not_wrong_command fun _ => not_wrong_success) (not_lt.mpr hhigh)
  · rw [if_neg hhigh]
    exact iff_of_true ⟨_, rfl, .inl rfl⟩ (not_le.mp hhigh)

end Executor

/-! ### Agreement -/

/-- A host that answers no command. -/
def silentHost : Host where
  command _ := .error .timeoutExpired
  readiness := .timeoutException
  timestamp := ""

section Agreement

variable {executor : HostExecutor} {target : OperationalTarget} {request : HelperRequest}

lemma agree_systemHealth : Agree executor target .systemHealth TransportCall.systemHealthRequest :=
  ⟨rfl, fun _ _ => not_wrong_hostHealth⟩

lemma agree_serviceStatus (hlisted : Listed executor.allowLists target .serviceStatus) :
    Agree executor target .serviceStatus (TransportCall.serviceStatusRequest target) := by
  constructor
  · exact (validateRequest_eq_self (by decide)).mpr ⟨orKey_ne _ _, hlisted, rfl⟩
  · intro hentry host
    exact not_wrong_serviceStatus hlisted hentry

lemma key_ne (target : OperationalTarget) : target.key ≠ "" := orKey_ne target none

lemma agree_serviceRestart (hlisted : Listed executor.allowLists target .serviceRestart) :
    Agree executor target .serviceRestart (TransportCall.serviceRestartRequest target) := by
  constructor
  · exact (validateRequest_eq_self (by decide)).mpr ⟨key_ne target, hlisted, rfl⟩
  · intro hentry host
    exact not_wrong_serviceRestart hlisted hentry

lemma agree_deploymentDeploy (hlisted : Listed executor.allowLists target .deploymentDeploy) :
    Agree executor target .deploymentDeploy (TransportCall.deploymentDeployRequest target) := by
  constructor
  · exact (validateRequest_eq_self (by decide)).mpr ⟨key_ne target, hlisted, rfl⟩
  · intro hentry host
    exact not_wrong_deploymentDeploy hlisted hentry

/-- The validation takes the lines that the transport does; the executor may not. -/
lemma agree_serviceLogs_iff {lines : Json}
    (hrequest : TransportCall.serviceLogsRequest target lines = .ok request)
    (hlisted : Listed executor.allowLists target (.serviceLogs lines)) :
    Agree executor target (.serviceLogs lines) request ↔ Common target (.serviceLogs lines) := by
  unfold TransportCall.serviceLogsRequest at hrequest
  split at hrequest
  · next n =>
    simp only [bind_eq_ok, raiseIf_eq_ok, not_or, not_lt] at hrequest
    obtain ⟨_, ⟨hlow, hhigh⟩, heq⟩ := hrequest
    cases heq
    have hvalid : validateRequest (.obj (HelperRequest.payload ⟨.logsRecent,
        some (target.orKey target.hostHelperLogTarget), [("lines", .int n)]⟩))
        executor.allowLists = .ok ⟨.logsRecent, some (target.orKey target.hostHelperLogTarget),
          [("lines", .int n)]⟩ := by
      refine (validateRequest_eq_self (by decide)).mpr ⟨orKey_ne _ _, hlisted, ?_⟩
      have hparams : validateParams .logsRecent [("lines", Json.int n)] = (do
          raiseIf (¬(1 ≤ n ∧ n ≤ 500)) (.valueError "lines must be an integer between 1 and 500")
          return [("lines", .int n)]) := rfl
      rw [hparams, raiseIf, if_neg (not_not.mpr ⟨hlow, hhigh⟩)]
      rfl
    have hwrong : HasEntryPoint target (.serviceLogs (.int n)) → ∀ host, Wrong (executor.execute
        ⟨.logsRecent, some (target.orKey target.hostHelperLogTarget), [("lines", .int n)]⟩) host ↔
        maxLogLines < n := fun hentry host => wrong_logsRecent hlisted hentry hlow
    have hcommon : Common target (.serviceLogs (.int n)) ↔
        (HasEntryPoint target (.serviceLogs (.int n)) → n ≤ maxLogLines) := by
      rw [Common, imp_iff_or_not]
      simp
    rw [Agree, and_iff_right hvalid, hcommon]
    refine forall_congr' fun hentry => ?_
    constructor
    · intro h
      exact not_lt.mp (mt (hwrong hentry silentHost).mpr (h silentHost))
    · intro hle host
      exact mt (hwrong hentry host).mp (not_lt.mpr hle)
  · cases hrequest

lemma agree_serviceRecover_iff {component : Json}
    (hlisted : Listed executor.allowLists target (.serviceRecover component)) :
    Agree executor target (.serviceRecover component)
        (TransportCall.serviceRecoverRequest target component) ↔
      Common target (.serviceRecover component) := by
  unfold Agree TransportCall.serviceRecoverRequest
  rw [validateRequest_eq_self (by decide)]
  constructor
  · rintro ⟨⟨-, hmem, hparams⟩, -⟩
    have hkey : target.key = "dripvid" := by
      simpa using (List.mem_filter.mp hmem).2
    refine ⟨hkey, ?_⟩
    cases component with
    | str text =>
      have hparams' : (do
          raiseIf (text ∉ recoveryComponentKeys) (.valueError "invalid recovery component")
          return [("component", .str text)]) = (.ok [("component", .str text)] :
            Except PyError Dict) := hparams
      obtain ⟨_, hcomponent, -⟩ := bind_eq_ok.mp hparams'
      exact ⟨text, rfl, not_not.mp (raiseIf_eq_ok.mp hcomponent)⟩
    | _ => cases hparams
  · rintro ⟨hkey, text, rfl, htext⟩
    have hdripvid : "dripvid" ∈ executor.allowLists.services := hkey ▸ hlisted
    have hparams : validateParams .serviceRecover [("component", Json.str text)] = (do
        raiseIf (text ∉ recoveryComponentKeys) (.valueError "invalid recovery component")
        return [("component", .str text)]) := rfl
    rw [hkey]
    refine ⟨⟨by decide, ?_, ?_⟩, fun _ host => not_wrong_serviceRecover hdripvid htext⟩
    · exact List.mem_filter.mpr ⟨hdripvid, by decide⟩
    · rw [hparams, raiseIf, if_neg (not_not.mpr htext)]
      rfl

/-- The validation knows no parameters of a rollback. -/
lemma not_agree_deploymentRollback {releaseId : Json}
    (hrequest : TransportCall.deploymentRollbackRequest target releaseId = .ok request) :
    ¬Agree executor target (.deploymentRollback releaseId) request := by
  unfold TransportCall.deploymentRollbackRequest at hrequest
  split at hrequest
  · simp only [bind_eq_ok] at hrequest
    obtain ⟨_, -, heq⟩ := hrequest
    cases heq
    rintro ⟨hvalid, -⟩
    obtain ⟨-, -, hparams⟩ := (validateRequest_eq_self (by decide)).mp hvalid
    cases hparams
  · cases hrequest

/-- The layers agree on a call that the transport takes, for a target that is listed, exactly
when it is in their common part; a rollback never is. -/
theorem agree_iff (executor : HostExecutor) (target : OperationalTarget) (call : TransportCall)
    (request : HelperRequest) (hrequest : call.request target = .ok request)
    (hlisted : Listed executor.allowLists target call) :
    Agree executor target call request ↔ Common target call := by
  cases call with
  | systemHealth =>
    cases hrequest
    exact iff_of_true agree_systemHealth trivial
  | serviceStatus =>
    cases hrequest
    exact iff_of_true (agree_serviceStatus hlisted) trivial
  | serviceLogs lines => exact agree_serviceLogs_iff hrequest hlisted
  | serviceRestart =>
    cases hrequest
    exact iff_of_true (agree_serviceRestart hlisted) trivial
  | serviceRecover component =>
    cases hrequest
    exact agree_serviceRecover_iff hlisted
  | deploymentDeploy =>
    cases hrequest
    exact iff_of_true (agree_deploymentDeploy hlisted) trivial
  | deploymentRollback releaseId =>
    exact iff_of_false (not_agree_deploymentRollback hrequest) id

end Agreement

/-! ### Two calls -/

/-- The executor with the default allow lists. -/
def defaultExecutor : HostExecutor where
  allowLists := defaultAllowLists
  python := { maxDepth := 1000, float := fun text => (0, text) }

def dripvidTarget : OperationalTarget where
  key := "dripvid"
  allowedCapabilities := ["service.logs.read"]
  serviceTarget_given := by simp
  logTarget_given := by simp

def aiHqTarget : OperationalTarget where
  key := "ai-hq"
  allowedCapabilities := ["deployment.deploy", "deployment.rollback"]
  serviceTarget_given := by simp
  logTarget_given := by simp

/-- The layers agree on two hundred lines of the log of `dripvid`. -/
theorem agree_recentLogs : Agree defaultExecutor dripvidTarget (.serviceLogs (.int 200))
    ⟨.logsRecent, some "dripvid", [("lines", .int 200)]⟩ := by
  have hlisted : Listed defaultExecutor.allowLists dripvidTarget (.serviceLogs (.int 200)) := by
    show "dripvid" ∈ defaultAllowLists.logs ++ defaultAllowLists.diagnosticLogs
    decide
  exact (agree_iff defaultExecutor dripvidTarget (.serviceLogs (.int 200)) _ rfl hlisted).mpr
    ⟨200, rfl, .inl (by decide)⟩

/-- What a delivery can store as a release id, the transport takes. -/
lemma isReleaseId_of_valid {releaseId : String} (h : releaseIdValid releaseId = true) :
    HostExecutor.isReleaseId releaseId = true := by
  simp only [releaseIdValid, Bool.and_eq_true, decide_eq_true_eq, List.all_eq_true,
    Bool.or_eq_true] at h
  obtain ⟨⟨hlength, hne⟩, hall⟩ := h
  simp only [HostExecutor.isReleaseId, Bool.and_eq_true, decide_eq_true_eq, List.all_eq_true,
    Bool.or_eq_true]
  refine ⟨⟨hne, hlength⟩, fun c hc => ?_⟩
  rcases hall c hc with ((halnum | rfl) | rfl) | rfl
  · exact .inl halnum
  · exact .inr (by decide)
  · exact .inr (by decide)
  · exact .inr (by decide)

/-- A release that a delivery can store is rolled back to by a request that the validation
refuses. -/
theorem not_agree_storedRelease : releaseIdValid "release-2.83.0" = true ∧
    Listed defaultAllowLists aiHqTarget (.deploymentRollback (.str "release-2.83.0")) ∧
    ∃ request, TransportCall.request aiHqTarget (.deploymentRollback (.str "release-2.83.0")) =
      .ok request ∧
      ¬Agree defaultExecutor aiHqTarget (.deploymentRollback (.str "release-2.83.0")) request := by
  have hvalid : releaseIdValid "release-2.83.0" = true := by decide
  have hlisted : "ai-hq" ∈ defaultAllowLists.services := by decide
  have hrequest : TransportCall.deploymentRollbackRequest aiHqTarget (.str "release-2.83.0") =
      .ok ⟨.deploymentRollback, some "ai-hq", [("release_id", .str "release-2.83.0")]⟩ := by
    simp only [TransportCall.deploymentRollbackRequest, isReleaseId_of_valid hvalid]
    rfl
  exact ⟨hvalid, hlisted, _, hrequest, not_agree_deploymentRollback hrequest⟩

end Layers
end AiHq
