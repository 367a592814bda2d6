import AiHq.Delivery.Manifest
import AiHq.Library.Expiring
import AiHq.Library.Program

/-!
# Logging in

A login is checked against a counter of the failures of its client before the password is verified.
The counters are in Redis, and each command to it may fail. The proxy in front appends the address
of its peer to the `X-Forwarded-For` header that it has received.
-/

namespace AiHq

open Concurrent Expiring

/-! ### Requests -/

/-- A login request that a peer sends to the proxy. -/
structure LoginRequest where
  remoteAddr : String
  /-- the `X-Forwarded-For` headers that the peer has sent -/
  forwardedFor : List String
  origin : Option String
  scheme : String
  host : String
  password : String
  deriving DecidableEq

/-- `$proxy_add_x_forwarded_for` -/
def LoginRequest.proxyAddXForwardedFor (request : LoginRequest) : String :=
  String.join (request.forwardedFor.map (· ++ ", ")) ++ request.remoteAddr

/-- `_client_identity`, where the proxy is the client of the application. -/
def clientIdentity (forwarded client : Option String) : String :=
  match forwarded.filter (· ≠ "") with
  | some forwarded => strip (String.ofList (forwarded.toList.takeWhile (· ≠ ',')))
  | none => client.getD "unknown"

/-- The identity of the client of a request that comes through the proxy. -/
def LoginRequest.identity (request : LoginRequest) : String :=
  clientIdentity (some request.proxyAddXForwardedFor) (some "127.0.0.1")

/-- `text.rstrip("/")` -/
def rstripSlash (text : String) : String := String.ofList (text.toList.rdropWhile (· = '/'))

/-- `_origin_is_allowed` -/
def originIsAllowed (isProduction : Bool) (request : LoginRequest) : Except PyError Bool :=
  if !isProduction then .ok true
  else match request.origin.filter (· ≠ "") with
    | none => .ok false
    | some origin => do
      let origin := rstripSlash origin
      let expected := rstripSlash (request.scheme ++ "://" ++ request.host)
      raiseIf (∃ c ∈ origin.toList ++ expected.toList, 128 ≤ c.toNat)
        (.typeError "comparing strings with non-ASCII characters is not supported")
      return origin = expected

/-! ### The limiter -/

/-- The counters in Redis, with the clock, and whether Redis answers. -/
structure LoginWorld where
  counters : Counters String Datetime := fun _ => none
  now : Datetime := 0
  redisUp : Bool := true

/-- What an action of a login shows. -/
inductive LoginEvent where
  | checked (blocked : Bool)
  | verified (correct : Bool)
  | incremented (count : ℕ)
  | expiring
  | cleared
  | redisError
  deriving DecidableEq, Repr

abbrev Web (α : Type) := Prog PyError LoginEvent LoginWorld α

def redisError : PyError := .other "RedisError"

namespace Web

/-- A command to Redis. -/
def command {α : Type} (ev : α → LoginEvent)
    (run : Counters String Datetime → Datetime → α × Counters String Datetime) : Web α :=
  .atomic (fun r => r.toOption.elim .redisError ev) fun w =>
    if w.redisUp then
      .ok ((run w.counters w.now).1, { w with counters := (run w.counters w.now).2 })
    else .error redisError

/-- `try: body except RedisError`; none if there has been an error. -/
def caught {α : Type} (body : Web α) : Web (Option α) :=
  tryCatch (some <$> body) fun error => if error = redisError then return none else throw error

end Web

structure LoginRateLimiter where
  sha256 : Sha256
  maxAttempts : ℕ := 5
  windowSeconds : ℤ := 900

namespace LoginRateLimiter

variable (self : LoginRateLimiter) (identity : String)

def key : String := "ai-hq:auth:failed:" ++ self.sha256.hexdigest identity.toUTF8

def isBlocked : Web Bool :=
  .command .checked fun counters now =>
    (decide (self.maxAttempts ≤ value counters now (self.key identity)), counters)

def recordFailure : Web Unit := do
  let count ← .command .incremented fun counters now => incr counters now (self.key identity)
  if count = 1 then
    .command (fun _ => .expiring) fun counters now =>
      ((), expireAt counters now (self.key identity) (now + seconds self.windowSeconds))

def clear : Web Unit :=
  .command (fun _ => .cleared) fun counters _ => ((), del counters (self.key identity))

end LoginRateLimiter

/-! ### The login -/

inductive LoginResponse where
  /-- 403 -/
  | forbidden
  | tooManyAttempts
  /-- 503 -/
  | unavailable
  /-- 401 -/
  | invalidCredentials
  /-- 303, with a new session -/
  | redirect
  deriving DecidableEq, Repr

/-- The application, with `verify_password` for the hash in its settings. -/
structure LoginRoute where
  isProduction : Bool
  limiter : LoginRateLimiter
  verifyPassword : String → Bool

namespace LoginRoute

variable (self : LoginRoute) (request : LoginRequest)

/-- The counter that is asked for a request. -/
def key : String := self.limiter.key request.identity

/-- After a password that has been rejected. -/
def reject : Web LoginResponse := do
  match ← Web.caught (self.limiter.recordFailure request.identity) with
  | none => return .unavailable
  | some () => return .invalidCredentials

/-- After a password that has been accepted. -/
def accept : Web LoginResponse := do
  match ← Web.caught (self.limiter.clear request.identity) with
  | none => return .unavailable
  | some () => return .redirect

/-- After the check. -/
def verify : Web LoginResponse := do
  let correct ← .act (fun _ => .verified (self.verifyPassword request.password)) id fun _ =>
    .ret (self.verifyPassword request.password)
  if correct then self.accept request else self.reject request

/-- `login` -/
def login : Web LoginResponse := do
  let allowed ← .ofExcept (originIsAllowed self.isProduction request)
  if !allowed then return .forbidden
  match ← Web.caught (self.limiter.isBlocked request.identity) with
  | none => return .unavailable
  | some true => return .tooManyAttempts
  | some false => self.verify request

end LoginRoute
end AiHq
