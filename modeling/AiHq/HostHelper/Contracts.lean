import AiHq.Models

/-!
# Requests to the host helper

What the host helper can be asked for, and the validation of a request against the allow lists.
-/

namespace AiHq

inductive HostCapability where
  | hostHealth | hostResources | dripvidReadiness | serviceStatus | serviceRestart
  | serviceRecover | deploymentDeploy | deploymentRollback | containerStatus | logsRecent
  deriving DecidableEq, Repr

namespace HostCapability

def value : HostCapability → String
  | hostHealth => "host.health"
  | hostResources => "host.resources"
  | dripvidReadiness => "dripvid.readiness"
  | serviceStatus => "service.status"
  | serviceRestart => "service.restart"
  | serviceRecover => "service.recover"
  | deploymentDeploy => "deployment.deploy"
  | deploymentRollback => "deployment.rollback"
  | containerStatus => "container.status"
  | logsRecent => "logs.recent"

/-- `HostCapability(value)` -/
def ofValue? : Json → Option HostCapability
  | .str text =>
    [hostHealth, hostResources, dripvidReadiness, serviceStatus, serviceRestart, serviceRecover,
      deploymentDeploy, deploymentRollback, containerStatus, logsRecent].find? fun capability =>
        capability.value = text
  | _ => none

end HostCapability

def recoveryComponentKeys : List String := ["app", "mcp", "proxy", "tunnel", "database"]

structure HostAllowLists where
  services : List String
  containers : List String
  logs : List String
  diagnosticServices : List String := []
  diagnosticLogs : List String := []

structure HelperRequest where
  capability : HostCapability
  target : Option String
  params : Dict

structure HelperResponse where
  ok : Bool
  capability : HostCapability
  target : Option String
  data : Dict
  error : Option String := none

/-- The targets that a capability may name. -/
def HostAllowLists.targets (allowLists : HostAllowLists) : HostCapability → List String
  | .serviceRecover => allowLists.services.filter fun service => service = "dripvid"
  | .serviceStatus => allowLists.services ++ allowLists.diagnosticServices
  | .serviceRestart | .deploymentDeploy | .deploymentRollback => allowLists.services
  | .containerStatus => allowLists.containers
  | _ => allowLists.logs ++ allowLists.diagnosticLogs

/-- `_validate_target` -/
def validateTarget (capability : HostCapability) (target : Json) (allowLists : HostAllowLists) :
    Except PyError String :=
  match target with
  | .str target => do
    raiseIf (target = "" ∨ target ∉ allowLists.targets capability) (.valueError "unknown target")
    return target
  | _ => .error (.valueError "unknown target")

/-- The parameters of a request for a target. -/
def validateParams (capability : HostCapability) (params : Dict) : Except PyError Dict :=
  match capability with
  | .serviceRecover => do
    raiseIf (params.isEmpty ∨ params.any fun field => field.1 ≠ "component")
      (.valueError "invalid recovery parameters")
    match Dict.get params "component" with
    | some (.str component) => do
      raiseIf (component ∉ recoveryComponentKeys) (.valueError "invalid recovery component")
      return [("component", .str component)]
    | _ => .error (.valueError "invalid recovery component")
  | .serviceStatus | .serviceRestart | .deploymentDeploy | .deploymentRollback
    | .containerStatus => do
    raiseIf (!params.isEmpty) (.valueError "unknown parameter")
    return []
  | _ => do
    raiseIf (params.any fun field => field.1 ≠ "lines") (.valueError "unknown parameter")
    match (Dict.get params "lines").getD (.int 100) with
    | .int lines => do
      raiseIf (¬(1 ≤ lines ∧ lines ≤ 500))
        (.valueError "lines must be an integer between 1 and 500")
      return [("lines", .int lines)]
    | _ => .error (.valueError "lines must be an integer between 1 and 500")

def validateRequest (payload : Json) (allowLists : HostAllowLists) :
    Except PyError HelperRequest :=
  match payload with
  | .obj payload => do
    let capability ← ((Dict.get payload "capability").bind HostCapability.ofValue?).elim
      (.error (.valueError "unknown capability")) .ok
    raiseIf (payload.any fun field => field.1 ∉ ["capability", "target", "params"])
      (.valueError "unknown request field")
    match (Dict.get payload "params").getD (.obj []) with
    | .obj params =>
      let target := (Dict.get payload "target").getD .null
      match capability with
      | .hostHealth | .hostResources | .dripvidReadiness =>
        match target with
        | .null => do
          raiseIf (!params.isEmpty) (.valueError "unknown parameter")
          return { capability, target := none, params := [] }
        | _ => .error (.valueError "target not allowed")
      | _ => do
        let target ← validateTarget capability target allowLists
        let params ← validateParams capability params
        return { capability, target := some target, params }
    | _ => .error (.typeError "invalid parameters")
  | _ => .error (.typeError "invalid request")

/-! ### The exceptions of a validation -/

/-- The exceptions are the ones that `except (TypeError, ValueError)` handles. -/
def Refuses {α : Type} (x : Except PyError α) : Prop :=
  ∀ error, x = .error error →
    (∃ message, error = .typeError message) ∨ ∃ message, error = .valueError message

section Exceptions

variable {α β : Type} {message : String}

lemma Refuses.bind {x : Except PyError α} {f : α → Except PyError β} (hx : Refuses x)
    (hf : ∀ a, Refuses (f a)) : Refuses (x >>= f) := by
  cases x with
  | ok a => exact hf a
  | error e => exact fun error h => hx error (congrArg Except.error (Except.error.inj h))

end Exceptions
end AiHq
