import AiHq.Models

/-!
# Tool requests, outcomes and the registry of adapters
-/

namespace AiHq

structure ToolRequest where
  missionId : String
  agentKey : String
  capability : String
  target : String
  risk : MissionRisk
  params : Dict := []
  conditions : Dict := []
  mutatesExternalState : Bool := false

inductive ToolOutcomeState where
  | blocked | waitingApproval | simulated | executed | failed
  deriving DecidableEq, Repr

def ToolOutcomeState.value : ToolOutcomeState → String
  | blocked => "blocked"
  | waitingApproval => "waiting_approval"
  | simulated => "simulated"
  | executed => "executed"
  | failed => "failed"

structure ToolOutcome where
  state : ToolOutcomeState
  capability : String
  result : Option Json := none
  reason : Option String := none
  approvalRequestId : Option String := none

/-- The capabilities that have an adapter. A capability is not empty, has no `*`, and has one
adapter only. -/
structure ToolRegistry where
  capabilities : List String
  valid : ∀ c ∈ capabilities, c ≠ "" ∧ '*' ∉ c.toList
  nodup : capabilities.Nodup

/-- A registry without adapters. -/
def ToolRegistry.empty : ToolRegistry := ⟨[], List.forall_mem_nil _, List.nodup_nil⟩

/-- `ToolRegistry(adapters)`, for adapters given by their capabilities. -/
def ToolRegistry.ofAdapters (adapters : List String) : Except PyError ToolRegistry :=
  if hv : ∀ c ∈ adapters, c ≠ "" ∧ '*' ∉ c.toList then
    if hn : adapters.Nodup then .ok ⟨adapters, hv, hn⟩
    else .error (.valueError "duplicate capability")
  else .error (.valueError "invalid capability")

/-- Whether `registry.resolve(capability)` finds an adapter: the exact capability, with no
prefix and no wildcard. -/
def ToolRegistry.resolves (registry : ToolRegistry) (capability : String) : Bool :=
  capability ∈ registry.capabilities

end AiHq
