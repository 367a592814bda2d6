import AiHq.HostHelper.Server
import AiHq.Python.Encoding

/-!
# The host-helper client

Requests and responses are lines of JSON. Each side reads from the connection until a line ends or
is too long.
-/

namespace AiHq

open Concurrent

/-! ### Requests -/

/-- What the client sends besides the credential, as the JSON value that the server reads. -/
def HelperRequest.payload (request : HelperRequest) : Dict :=
  [("capability", .str request.capability.value), ("target", orNull request.target),
    ("params", .obj request.params)]

section Validation

variable {allowLists : HostAllowLists} {capability : HostCapability} {name : String} {params : Dict}

lemma ofValue?_value (capability : HostCapability) :
    HostCapability.ofValue? (.str capability.value) = some capability := by
  cases capability <;> decide

/-- The validation of what a call makes comes down to its target and its parameters. -/
lemma validateRequest_payload (htargeted : capability ∉
      [HostCapability.hostHealth, .hostResources, .dripvidReadiness]) :
    validateRequest (.obj (HelperRequest.payload ⟨capability, some name, params⟩)) allowLists =
      (do
        let target ← validateTarget capability (.str name) allowLists
        let params ← validateParams capability params
        return ⟨capability, some target, params⟩) := by
  cases capability with
  | hostHealth => simp at htargeted
  | hostResources => simp at htargeted
  | dripvidReadiness => simp at htargeted
  | serviceStatus => rfl
  | serviceRestart => rfl
  | serviceRecover => rfl
  | deploymentDeploy => rfl
  | deploymentRollback => rfl
  | containerStatus => rfl
  | logsRecent => rfl

/-- The validation reads a request back exactly when it takes its target and its parameters. -/
lemma validateRequest_eq_self (htargeted : capability ∉
      [HostCapability.hostHealth, .hostResources, .dripvidReadiness]) :
    validateRequest (.obj (HelperRequest.payload ⟨capability, some name, params⟩)) allowLists =
      .ok ⟨capability, some name, params⟩ ↔
    name ≠ "" ∧ name ∈ allowLists.targets capability ∧
      validateParams capability params = .ok params := by
  rw [validateRequest_payload htargeted]
  simp only [validateTarget, bind_eq_ok, raiseIf_eq_ok, not_or, not_not]
  constructor
  · rintro ⟨name', ⟨_, ⟨hne, hmem⟩, hname⟩, params', hparams, heq⟩
    cases hname
    cases heq
    exact ⟨hne, hmem, hparams⟩
  · rintro ⟨hne, hmem, hparams⟩
    exact ⟨name, ⟨(), ⟨hne, hmem⟩, rfl⟩, params, hparams, rfl⟩

end Validation

/-! ### Connections -/

/-- `connection.recv(n)` of a connection on which data arrives in chunks. -/
def recv (n : ℕ) : List (List UInt8) → List UInt8 × List (List UInt8)
  | [] => ([], [])
  | chunk :: chunks => (chunk.take n, if chunk.length ≤ n then chunks else chunk.drop n :: chunks)

/-- The loop that reads until a newline or beyond the limit. Each round that goes on has received
a byte at least, so that there are `limit + 1` of them at most. -/
def readLoop (limit : ℕ) : ℕ → List UInt8 → List (List UInt8) → List UInt8
  | 0, data, _ => data
  | rounds + 1, data, chunks =>
    if limit < data.length then data
    else
      let (chunk, chunks) := recv (min 4096 (limit + 1 - data.length)) chunks
      if chunk.isEmpty then data
      else if 0x0a ∈ chunk then data ++ chunk
      else readLoop limit rounds (data ++ chunk) chunks

/-- What is read of a connection, up to the limit. -/
def readUpTo (limit : ℕ) (chunks : List (List UInt8)) : List UInt8 :=
  readLoop limit (limit + 1) [] chunks

/-- `HostHelperServer._read_request` -/
def readRequest (chunks : List (List UInt8)) : ByteArray :=
  (readUpTo maxRequestBytes chunks).toByteArray

/-- A value as the line that is sent. -/
def encodeLine (python : Interpreter) (value : Json) : Except PyError (List UInt8) := do
  let text ← value.encode python
  return text.toUTF8.data.toList ++ [0x0a]

/-- `HostHelperServer.serve_once`, on the data that the client sends. -/
def HostHelperServer.serveOnce (self : HostHelperServer) (chunks : List (List UInt8)) :
    Helper (List UInt8) := do
  let response ← self.handlePayload (readRequest chunks)
  let line ← encodeLine self.executor.python response
  return line

structure HostHelperClient where
  credential : String
  python : Interpreter

namespace HostHelperClient

variable (self : HostHelperClient)

def maxResponseBytes : ℕ := 64 * 1024

/-- `_read_response` -/
def readResponse (chunks : List (List UInt8)) : Except PyError ByteArray :=
  let response := readUpTo maxResponseBytes chunks
  if maxResponseBytes < response.length then .error (.hostHelperError "response_too_large")
  else .ok (HostHelperServer.firstLine response.toByteArray)

/-- The line of a request. -/
def requestLine (request : HelperRequest) : Except PyError (List UInt8) :=
  encodeLine self.python (.obj (("credential", .str self.credential) :: request.payload))

/-- The checks of a decoded response. -/
def acceptResponse (request : HelperRequest) (decoded : Dict) : Except PyError HelperResponse := do
  let get := fun key => (decoded.get key).getD .null
  raiseIf (!(get "capability").pyEq (.str request.capability.value) ∨
    !(get "target").pyEq (orNull request.target)) (.hostHelperError "response_mismatch")
  match get "ok", get "data" with
  | .bool ok, .obj data => do
    let error ← match get "error" with
      | .null => .ok none
      | .str error => .ok (some error)
      | _ => .error (.hostHelperError "malformed_response")
    match HostCapability.ofValue? (get "capability") with
    | some capability => return ⟨ok, capability, request.target, data, error⟩
    | none => .error (.hostHelperError "malformed_response")
  | _, _ => .error (.hostHelperError "malformed_response")

/-- The response to a request, from the first line that is read. -/
def decodeResponse (request : HelperRequest) (raw : ByteArray) : Except PyError HelperResponse :=
  match String.fromUTF8? raw with
  | none => .error (.hostHelperError "malformed_response")
  | some text =>
    match Json.loads self.python text with
    | .ok (.obj decoded) => acceptResponse request decoded
    | .ok _ | .error .jsonDecodeError => .error (.hostHelperError "malformed_response")
    | .error error => .error error.toPyError

/-- `execute`, where the other side sends some data in return for what it gets, or the connection
fails. -/
def execute (request : HelperRequest) (connection : List UInt8 → Option (List (List UInt8))) :
    Except PyError HelperResponse := do
  let encoded ← self.requestLine request
  match connection encoded with
  | none => .error (.hostHelperError "connection_failed")
  | some chunks => do
    let raw ← readResponse chunks
    self.decodeResponse request raw

end HostHelperClient
end AiHq
