import AiHq.HostHelper.Totality
import AiHq.HostHelper.Wire

/-!
# Responses that can be delivered

The client takes lines up to a limit. The executor bounds the text of a log by the same limit, but
before it is escaped and put into a response, and it does not bound other outputs.
-/

namespace AiHq

open Concurrent HostExecutor

namespace Deliverable

/-! ### Sizes -/

/-- The bytes of characters in UTF-8. -/
def bytes (cs : List Char) : ℕ := (cs.map Char.utf8Size).sum

/-- The bytes of a value inside a response. -/
def size (x : Json) : ℕ := bytes x.compact

/-- The bytes of the line that is written of a response. -/
def lineSize (response : Json) : ℕ := size response + 1

lemma utf8ByteSize_ofList (cs : List Char) : (String.ofList cs).utf8ByteSize = bytes cs := by
  rw [← String.size_toByteArray, String.toByteArray_ofList, List.utf8Encode,
    List.size_toByteArray, List.length_flatMap]
  simp [bytes]

/-- The size is that of the line which is sent. -/
lemma length_encodeLine {python : Interpreter} {x : Json} {line : List UInt8}
    (h : encodeLine python x = .ok line) : line.length = lineSize x := by
  obtain ⟨text, htext, hline⟩ := bind_eq_ok.mp h
  obtain rfl := Except.ok.inj hline
  unfold Json.encode at htext
  split_ifs at htext
  obtain rfl := Except.ok.inj htext
  have hlength : (String.ofList x.compact).toUTF8.data.toList.length = size x :=
    (Array.length_toList ..).trans (utf8ByteSize_ofList x.compact)
  rw [List.length_append, hlength]
  rfl

/-- What the program returns, if it returns, can be delivered. -/
def Within (p : Helper HelperResponse) (host : Host) : Prop :=
  ∀ response, (p.run host).1 = .ok response →
    lineSize (responseDict response) ≤ HostHelperClient.maxResponseBytes

section Executor

variable {executor : HostExecutor} {host : Host} {request : HelperRequest} {argv : List String}
  {next : String → Helper HelperResponse}

end Executor

/-! ### The server -/

/-- All names that requests may have as targets. -/
def names (allowLists : HostAllowLists) : List String :=
  allowLists.services ++ allowLists.containers ++ allowLists.logs ++
    allowLists.diagnosticServices ++ allowLists.diagnosticLogs

section Server

variable {server : HostHelperServer} {raw : ByteArray} {host : Host} {payload : Dict}
  {request : HelperRequest} {allowLists : HostAllowLists}

end Server

end Deliverable
end AiHq
