import AiHq.HostHelper.Confinement

/-!
# Totality of the server

When a connection is answered: the limits of the interpreter, the comparison of the credentials
and the shape of the commands' output decide.
-/

namespace AiHq

open Concurrent

namespace Totality

/-- The only exception of `json.loads` is the one for a text that is no JSON. -/
def WithinLimits (python : Interpreter) (text : String) : Prop :=
  Json.loads python text ≠ .error .valueError ∧ Json.loads python text ≠ .error .recursionError

/-- The limits are kept by a text with no more characters than an integer may have digits, and no
more brackets than containers may nest. -/
lemma withinLimits_of_short {python : Interpreter} {text : String}
    (hlength : text.length ≤ python.maxDigits)
    (hbrackets : Json.brackets text.toList ≤ python.maxDepth) : WithinLimits python text := by
  constructor
  · intro h
    have hexceeds : python.maxDigits < text.toList.length := Json.exceeds_of_loads h
    rw [String.length_toList] at hexceeds
    omega
  · intro h
    have hexceeds : python.maxDepth < Json.brackets text.toList := Json.exceeds_of_loads h
    omega

/-- The standard output of a command that succeeds. -/
def output (host : Host) (argv : List String) : Option String :=
  match host.command argv with
  | .ok result => if result.returncode = 0 then some result.stdout else none
  | .error _ => none

/-- The program returns, rather than raise. -/
def Returns {α : Type} (p : Helper α) (host : Host) : Prop := ∃ a, (p.run host).1 = .ok a

section Returns

variable {α β : Type} {host : Host} {request : HelperRequest} {argv : List String}
  {next : String → Helper HelperResponse}

end Returns

/-! ### The capabilities -/

section Executor

variable {executor : HostExecutor} {host : Host} {request : HelperRequest}

end Executor

/-! ### The server -/

section Server

variable {server : HostHelperServer} {raw : ByteArray} {host : Host} {payload : Dict}

end Server

/-! ### Serving -/

section Serving

variable {server : HostHelperServer} {connections : List (ByteArray × Host)}

end Serving

end Totality
end AiHq
