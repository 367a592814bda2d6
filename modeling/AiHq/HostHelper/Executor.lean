import AiHq.HostHelper.Contracts
import AiHq.Library.Program
import AiHq.Python.Decoding
import AiHq.Python.Utf8

/-!
# The host executor

The privileged side of the host helper: each capability runs fixed commands on the host and
makes a response of their output.
-/

namespace AiHq

open Concurrent

def maxLogLines : ℤ := 200
def maxResponseBytes : ℕ := 64 * 1024

def readinessBooleanFields : List String :=
  ["database", "jellyfin", "radarr", "sonarr", "qbittorrent", "requestSync"]

def storageBooleanFields : List String := ["available", "writable", "belowReserve"]
def storageIntegerFields : List String := ["freeBytes", "reserveBytes"]

def allowedReadinessErrors : List String :=
  ["timeout", "connection_error", "transport_error", "response_too_large", "invalid_json"]

def serviceUnits : List (String × String) :=
  [("ai-hq", "ai-hq-host-helper.service"), ("nginx", "nginx.service"),
    ("dripvid", "dripvid.service")]

def diagnosticServiceUnits : List (String × String) :=
  [("dripvid-mcp", "dripvid-mcp.service"), ("cloudflared", "cloudflared.service"),
    ("postgresql", "postgresql.service")]

def readServiceUnits : List (String × String) := serviceUnits ++ diagnosticServiceUnits

def recoveryServiceUnits : List (String × String) :=
  [("app", "dripvid.service"), ("mcp", "dripvid-mcp.service"), ("proxy", "nginx.service"),
    ("tunnel", "cloudflared.service"), ("database", "postgresql.service")]

def containerTargets : List (String × String) :=
  [("ai-hq-web", "ai-hq-web-1"), ("ai-hq-worker", "ai-hq-worker-1")]

def deployEntrypoints : List (String × List String) :=
  [("ai-hq", ["/opt/ai-hq/bin/controlled-deploy", "ai-hq"])]

def rollbackEntrypoints : List (String × List String) :=
  [("ai-hq", ["/opt/ai-hq/bin/controlled-rollback", "ai-hq"])]

def logTargets : List (String × String × String) :=
  [("ai-hq", "journal", "ai-hq-host-helper.service"), ("nginx", "journal", "nginx.service"),
    ("dripvid", "journal", "dripvid.service"), ("dripvid-mcp", "journal", "dripvid-mcp.service"),
    ("cloudflared", "journal", "cloudflared.service"),
    ("postgresql", "journal", "postgresql.service")]

/-! ### The host -/

structure CompletedCommand where
  returncode : ℤ
  stdout : String
  stderr : String

/-- How a command runner fails: `TimeoutExpired`, or any other `OSError` or `SubprocessError`. -/
inductive CommandError where
  | timeoutExpired
  | osError
  deriving DecidableEq, Repr

/-- What an HTTP request ends in. A response has a status, the size of its body, and what
`json.loads` makes of the body; `none` stands for one whose bytes it cannot decode. -/
inductive HttpOutcome where
  | timeoutException
  | connectError
  | httpError
  | response (statusCode : ℤ) (size : ℕ) (body : Option (Except DecodeError Json))

/-- What the host answers while one request is executed. -/
structure Host where
  command : List String → Except CommandError CompletedCommand
  readiness : HttpOutcome
  /-- `datetime.now(UTC).isoformat()` -/
  timestamp : String

/-- What the server and the executor show: a request that is executed, and a command that is run,
with its outcome. -/
inductive HostEvent where
  | silent
  | executing (request : HelperRequest)
  | command (argv : List String) (outcome : Except CommandError CompletedCommand)

/-- A program of the host helper. -/
abbrev Helper (α : Type) := Prog PyError HostEvent Host α

namespace Helper

/-- Run what can raise. -/
def lift {α : Type} : Except PyError α → Helper α
  | .ok a => .ret a
  | .error e => .raise e

instance : MonadLift (Except PyError) Helper := ⟨lift⟩

/-- Ask the host for something. -/
def ask {α : Type} (ev : Host → HostEvent) (reply : Host → α) : Helper α :=
  .act ev id fun host => .ret (reply host)

end Helper

/-! ### Texts -/

/-- A line without its end. -/
def chomp (line : List Char) : List Char :=
  match line.reverse with
  | '\n' :: '\r' :: cs => cs.reverse
  | c :: cs => if isLineEnd c then cs.reverse else line
  | [] => []

/-- `text.splitlines()` -/
def linesOf (text : String) : List String :=
  (linesFrom [] text.toList).map fun line => String.ofList (chomp line)

/-- `text.split()` -/
def splitSpace (text : String) : List String :=
  ((text.toList.splitOnP isSpace).filter fun word => !word.isEmpty).map String.ofList

/-- The zeros of the decimal digits of Unicode. -/
def decimalZeros : List ℕ :=
  [0x30, 0x660, 0x6f0, 0x7c0, 0x966, 0x9e6, 0xa66, 0xae6, 0xb66, 0xbe6, 0xc66, 0xce6, 0xd66, 0xde6,
    0xe50, 0xed0, 0xf20, 0x1040, 0x1090, 0x17e0, 0x1810, 0x1946, 0x19d0, 0x1a80, 0x1a90, 0x1b50,
    0x1bb0, 0x1c40, 0x1c50, 0xa620, 0xa8d0, 0xa900, 0xa9d0, 0xa9f0, 0xaa50, 0xabf0, 0xff10,
    0x104a0, 0x10d30, 0x11066, 0x110f0, 0x11136, 0x111d0, 0x112f0, 0x11450, 0x114d0, 0x11650,
    0x116c0, 0x11730, 0x118e0, 0x11950, 0x11c50, 0x11d50, 0x11da0, 0x11f50, 0x16a60, 0x16ac0,
    0x16b50, 0x1d7ce, 0x1d7d8, 0x1d7e2, 0x1d7ec, 0x1d7f6, 0x1e140, 0x1e2f0, 0x1e4f0, 0x1e950,
    0x1fbf0]

def decimalValue? (c : Char) : Option ℕ :=
  (decimalZeros.find? fun d => d ≤ c.toNat ∧ c.toNat < d + 10).map (c.toNat - ·)

/-- The digits of a number, with an underscore between two of them at most. -/
def decimals? : List Char → Option (List ℕ)
  | [] => none
  | [c] => (decimalValue? c).map fun digit => [digit]
  | c :: '_' :: cs => do
    let digit ← decimalValue? c
    let digits ← decimals? cs
    return digit :: digits
  | c :: cs => do
    let digit ← decimalValue? c
    let digits ← decimals? cs
    return digit :: digits

/-- `int(word)` of a word without spaces; `none` stands for `ValueError`. -/
def Interpreter.int? (python : Interpreter) (word : String) : Option ℤ := do
  let (negative, unsigned) := match word.toList with
    | '-' :: cs => (true, cs)
    | '+' :: cs => (false, cs)
    | cs => (false, cs)
  let digits ← decimals? unsigned
  guard (digits.length ≤ python.maxDigits)
  let value : ℤ := digits.foldl (fun n digit => n * 10 + digit) 0
  return if negative then -value else value

def namesSecret (word : List Char) : Bool :=
  ["password", "secret", "token", "api_key", "authorization"].any fun keyword =>
    keyword.toList <:+: word.map foldCase

/-- What `_SECRET_ASSIGNMENT` calls the `prefix` of a match at the start of a line, and what
follows it. The space around the name may contain line ends. -/
def secretPrefix? (cs : List Char) : Option (List Char × List Char) :=
  let isName := fun c => c ≠ '=' && !isSpace c
  let indent := cs.takeWhile isSpace
  let word := (cs.dropWhile isSpace).takeWhile isName
  let rest := (cs.dropWhile isSpace).dropWhile isName
  match rest.dropWhile isSpace with
  | '=' :: value =>
    if namesSecret word then some (indent ++ word ++ rest.takeWhile isSpace ++ ['='], value)
    else none
  | _ => none

/-- Redact a text of at most `n` characters, which stands at the start of a line or not. -/
def redactFrom : ℕ → Bool → List Char → List Char
  | 0, _, cs => cs
  | _, _, [] => []
  | n + 1, lineStart, c :: cs =>
    match if lineStart then secretPrefix? (c :: cs) else none with
    | some (secret, value) =>
      secret ++ "[REDACTED]".toList ++ redactFrom n false (value.dropWhile (· ≠ '\n'))
    | none => c :: redactFrom n (c = '\n') cs

/-- `_redact` -/
def redact (text : String) : String :=
  String.ofList (redactFrom text.toList.length true text.toList)

/-- `_truncate_utf8` -/
def truncateUtf8 (text : String) (limit : ℕ := maxResponseBytes) : String × Bool :=
  let encoded := text.toUTF8
  if encoded.size ≤ limit then (text, false)
  else (String.ofList (decodeIgnore (encoded.extract 0 limit)), true)

/-- What stands on the two sides of the first equals sign. -/
def splitAssignment (line : String) : Option (String × Json) :=
  match line.toList.dropWhile (· ≠ '=') with
  | '=' :: value => some (String.ofList (line.toList.takeWhile (· ≠ '=')), .str (String.ofList value))
  | _ => none

/-- `_key_values` -/
def keyValues (text : String) : Dict :=
  ((linesOf text).filterMap splitAssignment).foldl (fun values field => values.set field.1 field.2) []

/-! ### Readiness -/

/-- `_bounded_readiness_error` -/
def boundedReadinessError (reachable : Bool) (statusCode : Json) (error : String) : Dict :=
  [("reachable", .bool reachable), ("status_code", statusCode), ("ok", .bool false),
    ("error", .str error)]

/-- The fields of a dictionary whose values pass a check, in the order of `fields`. -/
def pick (fields : List String) (check : Json → Bool) (d : Dict) : Dict :=
  fields.filterMap fun field => ((d.get field).filter check).map fun value => (field, value)

section Pick

variable {fields : List String} {check : Json → Bool} {d : Dict} {key : String}

end Pick

def isBoolean : Json → Bool
  | .bool _ => true
  | _ => false

def isNatural : Json → Bool
  | .int n => 0 ≤ n
  | _ => false

/-- `value is True` -/
def isTrue : Option Json → Bool
  | some (.bool b) => b
  | _ => false

/-- `error if error in _ALLOWED_READINESS_ERRORS else None` -/
def readinessError : Json → Except PyError Json
  | .str error => .ok (if error ∈ allowedReadinessErrors then .str error else .null)
  -- these have no hash
  | .list _ | .obj _ => .error (.typeError "unhashable type")
  | _ => .ok .null

/-- `_normalize_readiness` -/
def normalizeReadiness : Json → Except PyError Dict
  | .obj payload => do
    let statusCode := match Dict.get payload "status_code" with
      | some (.int n) => Json.int n
      | _ => .null
    let storage := match Dict.get payload "storage" with
      | some (.obj storage) =>
        pick storageBooleanFields isBoolean storage ++ pick storageIntegerFields isNatural storage
      | _ => []
    let error ← readinessError ((Dict.get payload "error").getD .null)
    return [("reachable", .bool (isTrue (Dict.get payload "reachable"))), ("status_code", statusCode),
        ("ok", .bool (isTrue (Dict.get payload "ok")))] ++
      pick readinessBooleanFields isBoolean payload ++
      (if storage.isEmpty then [] else [("storage", .obj storage)]) ++ [("error", error)]
  | _ => .ok (boundedReadinessError false .null "transport_error")

def defaultReadinessRunner (limit : ℕ) : HttpOutcome → Except PyError Dict
  | .timeoutException => .ok (boundedReadinessError false .null "timeout")
  | .connectError => .ok (boundedReadinessError false .null "connection_error")
  | .httpError => .ok (boundedReadinessError false .null "transport_error")
  | .response statusCode size body =>
    if limit < size then
      .ok (boundedReadinessError true (.int statusCode) "response_too_large")
    else match body with
      | none | some (.error .jsonDecodeError) =>
        .ok (boundedReadinessError true (.int statusCode) "invalid_json")
      | some (.error error) => .error error.toPyError
      | some (.ok (.obj payload)) =>
        normalizeReadiness (.obj (Dict.set (Dict.set payload "reachable" (.bool true)) "status_code"
          (.int statusCode)))
      | some (.ok _) => .ok (boundedReadinessError true (.int statusCode) "invalid_json")

/-! ### The executor -/

structure HostExecutor where
  allowLists : HostAllowLists
  python : Interpreter

namespace HostExecutor

variable (self : HostExecutor)

/-- `_failure` -/
def failure (request : HelperRequest) (error : String) : HelperResponse :=
  ⟨false, request.capability, request.target, [], some error⟩

/-- `HelperResponse(True, request.capability, target, data)` -/
def success (request : HelperRequest) (target : Option String) (data : Dict) : HelperResponse :=
  ⟨true, request.capability, target, data, none⟩

/-- What `_command` makes of the outcome of a command: its standard output, or a failure. -/
def stdoutOf (request : HelperRequest) :
    Except CommandError CompletedCommand → Except HelperResponse String
  | .ok result =>
    if result.returncode = 0 then .ok result.stdout else .error (failure request "command_failed")
  | .error .timeoutExpired => .error (failure request "timeout")
  | .error .osError => .error (failure request "command_failed")

/-- `result = self._command(request, argv)`, and what follows unless that is a failure. -/
def command (request : HelperRequest) (argv : List String)
    (next : String → Helper HelperResponse) : Helper HelperResponse := do
  let result ← Helper.ask (fun host => .command argv (host.command argv)) fun host =>
    stdoutOf request (host.command argv)
  match result with
  | .ok stdout => next stdout
  | .error failed => return failed

/-- `_host_health` -/
def hostHealth (request : HelperRequest) : Helper HelperResponse :=
  command request ["uptime", "-p"] fun uptime =>
  command request ["cat", "/proc/loadavg"] fun load => do
    let loadValues := splitSpace load
    let timestamp ← Helper.ask (fun _ => .silent) Host.timestamp
    return success request none
      [("uptime", .str (strip uptime)), ("load_1m", orNull loadValues[0]?),
        ("load_5m", orNull loadValues[1]?), ("load_15m", orNull loadValues[2]?),
        ("timestamp", .str timestamp)]

/-- The fields of the line about memory. -/
def memoryFields (memory : String) : List String :=
  splitSpace (((linesOf memory).find? fun line =>
    "Mem:".toList.isPrefixOf (stripChars line.toList)).getD "")

/-- The fields of the last line about the file system, if there is one under the heading. -/
def filesystemFields (filesystem : String) : List String :=
  let lines := ((linesOf filesystem).filter fun line => strip line ≠ "").map splitSpace
  if 2 ≤ lines.length then lines.getLastD [] else []

/-- `int(fields[i])` -/
def figure (fields : List String) (i : ℕ) : Except PyError Json :=
  match self.python.int? (fields.getD i "") with
  | some n => .ok (.int n)
  | none => .error (.valueError "invalid literal for int()")

/-- What `_host_resources` makes of the outputs. -/
def resourcesResponse (request : HelperRequest) (load memory filesystem : String) :
    Except PyError HelperResponse :=
  let loadValues := splitSpace load
  let memory := memoryFields memory
  let filesystem := filesystemFields filesystem
  if memory.length < 4 ∨ filesystem.length < 6 then .ok (failure request "malformed_response")
  else do
    let total ← self.figure memory 1
    let used ← self.figure memory 2
    let free ← self.figure memory 3
    let totalBytes ← self.figure filesystem 1
    let usedBytes ← self.figure filesystem 2
    let availableBytes ← self.figure filesystem 3
    return success request none
      [("load", .obj [("1m", orNull loadValues[0]?), ("5m", orNull loadValues[1]?),
          ("15m", orNull loadValues[2]?)]),
        ("memory", .obj [("total_bytes", total), ("used_bytes", used), ("free_bytes", free)]),
        ("filesystem", .obj [("path", .str "/"), ("total_bytes", totalBytes),
          ("used_bytes", usedBytes), ("available_bytes", availableBytes),
          ("use_percent", orNull filesystem[4]?)])]

/-- `_host_resources` -/
def hostResources (request : HelperRequest) : Helper HelperResponse :=
  command request ["cat", "/proc/loadavg"] fun load =>
  command request ["free", "-b"] fun memory =>
  command request ["df", "-B1", "/"] fun filesystem => do
    let response ← self.resourcesResponse request load memory filesystem
    return response

/-- What `_dripvid_readiness` makes of the outcome of its runner, none of whose exceptions is a
`TimeoutError` or an `OSError`. -/
def readinessPayload (outcome : HttpOutcome) : Dict :=
  match defaultReadinessRunner maxResponseBytes outcome with
  | .ok payload => payload
  | .error _ => boundedReadinessError false .null "transport_error"

/-- `_dripvid_readiness` -/
def dripvidReadiness (request : HelperRequest) : Helper HelperResponse :=
  if request.target ≠ none ∨ !request.params.isEmpty then
    return failure request "invalid parameters"
  else do
    let payload ← Helper.ask (fun _ => .silent) fun host => readinessPayload host.readiness
    let data ← normalizeReadiness (.obj payload)
    return success request none data

/-- The command that shows the state of a unit. -/
def showUnit (unit : String) : List String :=
  ["systemctl", "show", unit, "--no-page",
    "--property=ActiveState,SubState,LoadState,UnitFileState"]

/-- The state of a unit, from what `systemctl show` prints. -/
def unitState (stdout : String) : Dict :=
  let values := keyValues stdout
  [("active_state", (values.get "ActiveState").getD .null),
    ("sub_state", (values.get "SubState").getD .null),
    ("load_state", (values.get "LoadState").getD .null),
    ("unit_file_state", (values.get "UnitFileState").getD .null)]

/-- The entry of an optional target in a table, if it is one of those allowed. -/
def allowedEntry {α : Type} (allowed : List String) (table : List (String × α))
    (target : Option String) : Option α :=
  match target with
  | some target => if target ∈ allowed then table.lookup target else none
  | none => none

/-- `_service_status` -/
def serviceStatus (request : HelperRequest) : Helper HelperResponse :=
  let allowed := self.allowLists.services ++ self.allowLists.diagnosticServices
  match allowedEntry allowed readServiceUnits request.target with
  | none => return failure request "unknown target"
  | some unit =>
    command request (showUnit unit) fun stdout =>
      return success request request.target (unitState stdout)

/-- `_service_restart` -/
def serviceRestart (request : HelperRequest) : Helper HelperResponse :=
  match allowedEntry self.allowLists.services serviceUnits request.target with
  | none => return failure request "unknown target"
  | some unit =>
    command request ["systemctl", "restart", unit] fun _ =>
    command request (showUnit unit) fun stdout =>
      return success request request.target (("restarted", .bool true) :: unitState stdout)

/-- The only parameter of a request, if it has that name. -/
def onlyParam (name : String) (params : Dict) : Option Json :=
  if params.isEmpty ∨ params.any fun field => field.1 ≠ name then none else params.get name

/-- `_service_recover` -/
def serviceRecover (request : HelperRequest) : Helper HelperResponse :=
  if request.target ≠ some "dripvid" ∨ "dripvid" ∉ self.allowLists.services then
    return failure request "unknown target"
  else match onlyParam "component" request.params with
    | some (.str component) =>
      match recoveryServiceUnits.lookup component with
      | none => return failure request "invalid parameters"
      | some unit =>
        command request ["systemctl", "restart", unit] fun _ =>
        command request (showUnit unit) fun stdout =>
          return success request request.target
            (("component", .str component) :: ("restarted", .bool true) :: unitState stdout)
    | _ => return failure request "invalid parameters"

/-- `_deployment_deploy` -/
def deploymentDeploy (request : HelperRequest) : Helper HelperResponse :=
  if !request.params.isEmpty then return failure request "invalid parameters"
  else match allowedEntry self.allowLists.services deployEntrypoints request.target with
    | none => return failure request "unknown target"
    | some entrypoint =>
      command request entrypoint fun _ =>
        return success request request.target [("deployed", .bool true)]

/-- Whether a text is a release id: all its characters are ASCII, as `isascii` asks. -/
def isReleaseId (releaseId : String) : Bool :=
  releaseId ≠ "" && releaseId.toList.length ≤ 128 &&
    releaseId.toList.all fun c => c.isAlphanum || c ∈ "._-".toList

/-- `_deployment_rollback` -/
def deploymentRollback (request : HelperRequest) : Helper HelperResponse :=
  match allowedEntry self.allowLists.services rollbackEntrypoints request.target with
  | none => return failure request "unknown target"
  | some entrypoint =>
    match onlyParam "release_id" request.params with
    | some (.str releaseId) =>
      if !isReleaseId releaseId then return failure request "invalid parameters"
      else command request (entrypoint ++ [releaseId]) fun _ =>
        return success request request.target
          [("rolled_back", .bool true), ("release_id", .str releaseId)]
    | _ => return failure request "invalid parameters"

/-- What `_container_status` makes of the output of `docker inspect`. -/
def containerResponse (request : HelperRequest) (stdout : String) :
    Except PyError HelperResponse :=
  match Json.loads self.python stdout with
  | .error .jsonDecodeError => .ok (failure request "malformed_response")
  | .error error => .error error.toPyError
  | .ok (.obj state) =>
    let health := (Dict.get state "Health").getD .null
    match if health.truthy then health else .obj [] with
    | .obj health => .ok (success request request.target
        [("status", (Dict.get state "Status").getD .null),
          ("health", (Dict.get health "Status").getD .null)])
    | _ => .error (.other "AttributeError")
  | .ok _ => .error (.other "AttributeError")

/-- `_container_status` -/
def containerStatus (request : HelperRequest) : Helper HelperResponse :=
  match allowedEntry self.allowLists.containers containerTargets request.target with
  | none => return failure request "unknown target"
  | some container =>
    command request ["docker", "inspect", container, "--format", "\x7b\x7bjson .State\x7d\x7d"]
      fun stdout => do
        let response ← self.containerResponse request stdout
        return response

/-- The number of lines that a request asks for, if it is one that is served. -/
def logLines? (params : Dict) : Option ℤ :=
  match (params.get "lines").getD (.int 100) with
  | .int lines => if 1 ≤ lines ∧ lines ≤ maxLogLines then some lines else none
  | _ => none

/-- `_logs_recent` -/
def logsRecent (request : HelperRequest) : Helper HelperResponse :=
  let allowed := self.allowLists.logs ++ self.allowLists.diagnosticLogs
  match allowedEntry allowed logTargets request.target with
  | none => return failure request "unknown target"
  | some (source, unit) =>
    match logLines? request.params with
    | none => return failure request "invalid parameters"
    | some lines =>
      if source ≠ "journal" then return failure request "unknown target"
      else command request
        ["journalctl", "-u", unit, "-n", toString lines, "--no-pager", "-o", "short-iso"]
        fun stdout =>
          let (text, truncated) := truncateUtf8 (redact stdout)
          return success request request.target
            [("text", .str text), ("truncated", .bool truncated)]

def execute (request : HelperRequest) : Helper HelperResponse :=
  match request.capability with
  | .hostHealth => hostHealth request
  | .hostResources => self.hostResources request
  | .dripvidReadiness => dripvidReadiness request
  | .serviceStatus => self.serviceStatus request
  | .serviceRestart => self.serviceRestart request
  | .serviceRecover => self.serviceRecover request
  | .deploymentDeploy => self.deploymentDeploy request
  | .deploymentRollback => self.deploymentRollback request
  | .containerStatus => self.containerStatus request
  | .logsRecent => self.logsRecent request

/-! ### Rules -/

section Rules

variable {α : Type} {G : Host → HostEvent → Host → Prop}

lemma every_ask {ev : Host → HostEvent} {reply : Host → α} (h : ∀ host, G host (ev host) host) :
    Every G (Helper.ask ev reply) :=
  .act fun host => ⟨h host, .ret _⟩

lemma every_lift (x : Except PyError α) : Every G (liftM x : Helper α) := by
  cases x with
  | ok a => exact .ret a
  | error e => exact .raise e

/-- Nothing is shown besides the command and what follows it. -/
lemma every_command {request : HelperRequest} {argv : List String}
    {next : String → Helper HelperResponse}
    (h : ∀ host, G host (.command argv (host.command argv)) host)
    (hnext : ∀ stdout, Every G (next stdout)) : Every G (command request argv next) := by
  apply (every_ask h).bind
  intro result
  cases result with
  | ok stdout => exact hnext stdout
  | error failed => exact .ret failed

lemma run_command (request : HelperRequest) (argv : List String)
    (next : String → Helper HelperResponse) (host : Host) :
    (command request argv next).run host = match stdoutOf request (host.command argv) with
      | .ok stdout => (next stdout).run host
      | .error failed => (.ok failed, host) := by
  show (match stdoutOf request (host.command argv) with
    | .ok stdout => next stdout
    | .error failed => return failed : Helper HelperResponse).run host = _
  cases stdoutOf request (host.command argv) <;> rfl

lemma mem_of_allowedEntry {allowed : List String} {table : List (String × α)}
    {target : Option String} {x : α} (h : allowedEntry allowed table target = some x) :
    x ∈ table.map Prod.snd := by
  cases target with
  | none => cases h
  | some target =>
    simp only [allowedEntry] at h
    split_ifs at h
    obtain ⟨l₁, l₂, rfl, -⟩ := List.lookup_eq_some_iff.mp h
    simp

end Rules

end HostExecutor
end AiHq
