import AiHq.HostHelper.Executor

/-!
# The host-helper server

Each connection sends one line of JSON. The server checks its credential, validates the request
and has it executed; what raises in between ends the server.
-/

namespace AiHq

open Concurrent

def maxRequestBytes : ℕ := 16 * 1024

/-- `_error` -/
def errorResponse (error : String) : Json :=
  .obj [("ok", .bool false), ("capability", .null), ("target", .null), ("data", .obj []),
    ("error", .str error)]

/-- `_response_dict` -/
def responseDict (response : HelperResponse) : Json :=
  .obj [("ok", .bool response.ok), ("capability", .str response.capability.value),
    ("target", orNull response.target), ("data", .obj response.data),
    ("error", orNull response.error)]

/-- `str.isascii` -/
def isAscii (text : String) : Bool := text.toList.all fun c => c.toNat < 0x80

/-- `hmac.compare_digest` of two texts -/
def compareDigest (a b : String) : Except PyError Bool :=
  if isAscii a && isAscii b then .ok (a = b)
  else .error (.typeError "comparing strings with non-ASCII characters is not supported")

/-- `_default_allow_lists` -/
def defaultAllowLists : HostAllowLists where
  services := ["ai-hq", "nginx", "dripvid"]
  containers := ["ai-hq-web", "ai-hq-worker"]
  logs := ["ai-hq", "nginx", "dripvid"]
  diagnosticServices := ["dripvid-mcp", "cloudflared", "postgresql"]
  diagnosticLogs := ["dripvid-mcp", "cloudflared", "postgresql"]

structure HostHelperServer where
  credential : String
  allowLists : HostAllowLists
  executor : HostExecutor

namespace HostHelperServer

variable (self : HostHelperServer)

/-- `raw.split(b"\n", 1)[0]` -/
def firstLine (raw : ByteArray) : ByteArray :=
  ⟨(raw.data.toList.takeWhile (· ≠ 0x0a)).toArray⟩

/-- The validation of an authenticated payload, and its execution. -/
def handleRequest (payload : Dict) : Helper Json :=
  match validateRequest (.obj payload) self.allowLists with
  | .error (.typeError _) | .error (.valueError _) => return errorResponse "invalid request"
  | .error error => throw error
  | .ok request => do
    Helper.ask (fun _ => .executing request) fun _ => ()
    let response ← self.executor.execute request
    return responseDict response

/-- The authentication of a payload. -/
def handleObject (payload : Dict) : Helper Json :=
  match payload.pop "credential" .null with
  | (.str supplied, payload) => do
    let equal ← compareDigest supplied self.credential
    if equal then self.handleRequest payload else return errorResponse "authentication failed"
  | _ => return errorResponse "authentication failed"

/-- `_handle_payload` -/
def handlePayload (raw : ByteArray) : Helper Json :=
  if maxRequestBytes < raw.size then return errorResponse "request too large"
  else match String.fromUTF8? (firstLine raw) with
    | none => return errorResponse "invalid request"
    | some line =>
      match Json.loads self.executor.python line with
      | .ok (.obj payload) => self.handleObject payload
      | .ok _ | .error .jsonDecodeError => return errorResponse "invalid request"
      | .error error => throw error.toPyError

/-- The object that the bytes decode to. -/
def Decodes (raw : ByteArray) (payload : Dict) : Prop :=
  raw.size ≤ maxRequestBytes ∧ ∃ line, String.fromUTF8? (firstLine raw) = some line ∧
    Json.loads self.executor.python line = .ok (.obj payload)

/-- The bytes carry the configured credential, and validate to the request. -/
def Accepts (raw : ByteArray) (request : HelperRequest) : Prop :=
  ∃ payload, self.Decodes raw payload ∧
    Dict.get payload "credential" = some (.str self.credential) ∧
    validateRequest (.obj (Dict.pop payload "credential" .null).2) self.allowLists = .ok request

section Rules

variable {self} {G : Host → HostEvent → Host → Prop}

lemma compareDigest_eq_ok {a b : String} {equal : Bool} :
    compareDigest a b = .ok equal ↔ isAscii a = true ∧ isAscii b = true ∧ equal = decide (a = b) := by
  unfold compareDigest
  split_ifs with h
  · simp only [Bool.and_eq_true] at h
    simp [h, eq_comm]
  · simp only [Bool.and_eq_true] at h
    constructor
    · intro he
      cases he
    · rintro ⟨ha, hb, -⟩
      exact absurd ⟨ha, hb⟩ h

lemma credential_of_pop {payload rest : Dict} {supplied : String}
    (h : payload.pop "credential" .null = (.str supplied, rest)) :
    Dict.get payload "credential" = some (.str supplied) ∧
      rest = (Dict.pop payload "credential" .null).2 := by
  refine ⟨?_, by rw [h]⟩
  have hfst : (Dict.get payload "credential").getD .null = .str supplied :=
    congrArg Prod.fst h
  cases hget : Dict.get payload "credential" with
  | none =>
    rw [hget] at hfst
    cases hfst
  | some value =>
    rw [hget] at hfst
    exact congrArg some hfst

lemma every_handleRequest {payload : Dict}
    (h : ∀ request, validateRequest (.obj payload) self.allowLists = .ok request →
      (∀ host, G host (.executing request) host) ∧ Every G (self.executor.execute request)) :
    Every G (self.handleRequest payload) := by
  unfold handleRequest
  split
  · exact .ret _
  · exact .ret _
  · exact .raise _
  · next request hrequest =>
    obtain ⟨hexecuting, hexecute⟩ := h request hrequest
    apply (HostExecutor.every_ask hexecuting).bind
    intro _
    exact hexecute.bind fun _ => .ret _

lemma every_handleObject {payload : Dict}
    (h : Dict.get payload "credential" = some (.str self.credential) →
      Every G (self.handleRequest (Dict.pop payload "credential" .null).2)) :
    Every G (self.handleObject payload) := by
  unfold handleObject
  split
  · next supplied rest hpop =>
    obtain ⟨hget, rfl⟩ := credential_of_pop hpop
    cases hequal : compareDigest supplied self.credential with
    | error error => exact .raise error
    | ok equal =>
      obtain ⟨-, -, rfl⟩ := compareDigest_eq_ok.mp hequal
      by_cases heq : supplied = self.credential
      · subst heq
        rw [decide_eq_true rfl]
        exact h hget
      · rw [decide_eq_false heq]
        exact .ret _
  · exact .ret _

/-- What the server shows is what it shows of a request that it accepts. -/
lemma every_handlePayload {raw : ByteArray}
    (h : ∀ request, self.Accepts raw request →
      (∀ host, G host (.executing request) host) ∧ Every G (self.executor.execute request)) :
    Every G (self.handlePayload raw) := by
  unfold handlePayload
  split_ifs with hsize
  · exact .ret _
  · split
    · exact .ret _
    · next line hline =>
      split
      · next payload hpayload =>
        apply every_handleObject
        intro hget
        apply every_handleRequest
        intro request hrequest
        have hdecodes : self.Decodes raw payload := ⟨Nat.le_of_not_lt hsize, line, hline, hpayload⟩
        exact h request ⟨payload, hdecodes, hget, hrequest⟩
      · exact .ret _
      · exact .ret _
      · exact .raise _

end Rules

end HostHelperServer
end AiHq
