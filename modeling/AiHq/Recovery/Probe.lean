import AiHq.HostHelper.Totality
import AiHq.Operations.Transport

/-!
# Readiness probes

Recovery asks for the readiness of DripVid directly, or through the host helper. What the endpoint
answers is normalized once on the one path and three times on the other.
-/

namespace AiHq

open Concurrent

namespace Probe

def readinessBooleanFields : List String :=
  ["database", "jellyfin", "radarr", "sonarr", "qbittorrent", "requestSync"]

def storageBooleanFields : List String := ["available", "writable", "belowReserve"]
def storageIntegerFields : List String := ["freeBytes", "reserveBytes"]

def hostHelperReadinessErrors : List String :=
  ["timeout", "connection_error", "transport_error", "response_too_large", "invalid_json"]

/-- `error if error in _HOST_HELPER_READINESS_ERRORS else None` -/
def hostHelperError : Json → Except PyError Json
  | .str error => .ok (if error ∈ hostHelperReadinessErrors then .str error else .null)
  | .list _ | .obj _ => .error (.typeError "unhashable type")
  | _ => .ok .null

end Probe

open Probe

namespace Probe

/-! ### What is reported -/

/-- The flags of what stands for the storage in a report. -/
def flagOf (storage : Option Json) (flag : String) : Option Json :=
  match storage with
  | some (.obj storage) => Dict.get storage flag
  | _ => none

/-- Two reports give the same readiness. -/
structure Agree (report report' : Dict) : Prop where
  reachable : report.get "reachable" = report'.get "reachable"
  statusCode : report.get "status_code" = report'.get "status_code"
  ok : report.get "ok" = report'.get "ok"
  component : ∀ field ∈ readinessBooleanFields, report.get field = report'.get field
  flag : ∀ flag ∈ ["available", "writable"],
    flagOf (report.get "storage") flag = flagOf (report'.get "storage") flag

/-- A report of what a dictionary says, with a given reachability and status. -/
structure Reports (payload : Dict) (reachable : Bool) (statusCode : Json) (report : Dict) :
    Prop where
  reachable : report.get "reachable" = some (.bool reachable)
  statusCode : report.get "status_code" = some statusCode
  ok : report.get "ok" = some (.bool (isTrue (payload.get "ok")))
  component : ∀ field ∈ readinessBooleanFields,
    report.get field = (payload.get field).filter isBoolean
  flag : ∀ flag ∈ ["available", "writable"],
    flagOf (report.get "storage") flag = (flagOf (payload.get "storage") flag).filter isBoolean

section Reports

variable {payload report report' storage : Dict} {reachable : Bool} {statusCode : Json}

lemma filter_isBoolean_idem (value : Option Json) :
    (value.filter isBoolean).filter isBoolean = value.filter isBoolean := by
  cases value with
  | none => rfl
  | some value =>
    by_cases h : isBoolean value
    · simp [Option.filter, h]
    · simp [Option.filter, h]

/-- A report of a report is one of what that reports on. -/
lemma Reports.trans (h : Reports payload reachable statusCode report)
    {reachable' : Bool} {statusCode' : Json} (h' : Reports report reachable' statusCode' report') :
    Reports payload reachable' statusCode' report' where
  reachable := h'.reachable
  statusCode := h'.statusCode
  ok := by rw [h'.ok, h.ok]; rfl
  component field hfield := by
    rw [h'.component field hfield, h.component field hfield, filter_isBoolean_idem]
  flag flag hflag := by rw [h'.flag flag hflag, h.flag flag hflag, filter_isBoolean_idem]

end Reports

/-! ### The two paths -/

section Paths

variable {payload : Dict}

end Paths

end Probe
end AiHq
