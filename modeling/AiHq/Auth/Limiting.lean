import AiHq.Auth.Login
import AiHq.Library.Pool

/-!
# Login limiting

The limiter holds for a peer as long as its requests come under few identities and are counted one
after the other, and every counter expires as long as no request ends between the two commands that
make one. Neither is so in all runs: the identity is what the peer has written into its header.
-/

namespace AiHq

open Concurrent Expiring Pool

namespace Limiting

variable (self : LoginRoute)

/-! ### Runs -/

/-- Time passes, and Redis may go away and come back. -/
def Elapses (w w' : LoginWorld) : Prop := w.now ≤ w'.now ∧ w'.counters = w.counters

/-- The login requests that come to the application, each of which may be stopped at any time. -/
def serving : System LoginRequest PyError LoginEvent LoginWorld LoginResponse where
  code := self.login
  env := Elapses

abbrev LoginPool := Pool LoginRequest PyError LoginEvent LoginWorld LoginResponse

/-- The request has passed its check. -/
def isAdmitted (history : List LoginEvent) : Bool := history.contains (.checked false)

/-- The password has been verified. -/
def isVerified (history : List LoginEvent) : Bool :=
  history.any fun | .verified _ => true | _ => false

/-- The failure has been counted. -/
def isCounted (history : List LoginEvent) : Bool :=
  history.any fun | .incremented _ => true | _ => false

/-- A counter has been made, and has not been made to expire. -/
def isUnset (history : List LoginEvent) : Bool :=
  history.contains (.incremented 1) && !history.contains .expiring

/-- The requests of a peer whose passwords have been verified. -/
def verifiedOf (peer : String) (p : LoginPool) : ℕ :=
  p.threads.countP fun th => th.call.remoteAddr = peer && isVerified th.history

/-- The requests of a peer that come under a counter. -/
def requestsUnder (peer k : String) (p : LoginPool) : ℕ :=
  p.threads.countP fun th => th.call.remoteAddr = peer && self.key th.call = k

/-- The counters that the requests of a peer come under. -/
def keysOf (peer : String) (p : LoginPool) : Finset String :=
  ((p.threads.filter fun th => th.call.remoteAddr = peer).map fun th => self.key th.call).toFinset

/-- No request under the counter has the right password, and each of them passes its check only
when those that have passed theirs before have been counted. -/
def Orderly (k : String) (p : LoginPool) : Label LoginRequest LoginEvent → LoginPool → Prop
  | .spawn request, _ => self.key request = k → self.verifyPassword request.password = false
  | .act _ request (.checked false), _ => self.key request = k → ∀ th ∈ p.threads,
      self.key th.call = k → isAdmitted th.history = true → isCounted th.history = true
  | _, _ => True

/-- Every counter that is there expires. -/
def Expire (w : LoginWorld) : Prop :=
  ∀ k c, get w.counters w.now k = some c → c.expiry.isSome = true

/-! ### What an action does -/

variable {self} {request : LoginRequest} {history : List LoginEvent} {w w' : LoginWorld}
  {prog prog' : Web LoginResponse} {e : LoginEvent}

/-- The last part of a rejection. -/
def afterCount (self : LoginRoute) (request : LoginRequest) (count : ℕ) : Web LoginResponse := do
  match ← Web.caught (if count = 1 then
    Web.command (fun _ => .expiring) fun counters now =>
      ((), expireAt counters now (self.key request) (now + seconds self.limiter.windowSeconds))
    else return ()) with
  | none => return .unavailable
  | some () => return .invalidCredentials

/-- How far a request has come. -/
inductive Stage (self : LoginRoute) (request : LoginRequest) :
    List LoginEvent → Web LoginResponse → Prop where
  | begun : Stage self request [] (self.login request)
  | admitted : Stage self request [.checked false] (self.verify request)
  | rejected (hwrong : self.verifyPassword request.password = false) :
      Stage self request [.checked false, .verified false] (self.reject request)
  | counted : Stage self request [.checked false, .verified false, .incremented 1]
      (afterCount self request 1)
  | accepted (hright : self.verifyPassword request.password = true) :
      Stage self request [.checked false, .verified true] (self.accept request)
  | ended {history : List LoginEvent} {result : Except PyError LoginResponse}
      {prog : Web LoginResponse} (hended : prog.outcome = some result)
      (hadmitted : isVerified history = true ∨ isCounted history = true →
        isAdmitted history = true) :
      Stage self request history prog

/-- What an action of a request can do. -/
inductive Effect (self : LoginRoute) (request : LoginRequest) (w : LoginWorld) :
    List LoginEvent → LoginEvent → LoginWorld → Web LoginResponse → Prop where
  | passed (hvalue : value w.counters w.now (self.key request) < self.limiter.maxAttempts) :
      Effect self request w [] (.checked false) w (self.verify request)
  | blocked : Effect self request w [] (.checked true) w (.ret .tooManyAttempts)
  | rejected (hwrong : self.verifyPassword request.password = false) :
      Effect self request w [.checked false] (.verified false) w (self.reject request)
  | accepted (hright : self.verifyPassword request.password = true) :
      Effect self request w [.checked false] (.verified true) w (self.accept request)
  | counted : Effect self request w [.checked false, .verified false]
      (.incremented (value w.counters w.now (self.key request) + 1))
      { w with counters := (incr w.counters w.now (self.key request)).2 }
      (afterCount self request (value w.counters w.now (self.key request) + 1))
  | expiring : Effect self request w [.checked false, .verified false, .incremented 1] .expiring
      { w with counters := (expireAt w.counters w.now (self.key request)
        (w.now + seconds self.limiter.windowSeconds)) }
      (.ret .invalidCredentials)
  | cleared (hright : self.verifyPassword request.password = true) :
      Effect self request w [.checked false, .verified true] .cleared
        { w with counters := del w.counters (self.key request) } (.ret .redirect)
  | failed {history : List LoginEvent}
      (hadmitted : isVerified history = true ∨ isCounted history = true →
        isAdmitted history = true) :
      Effect self request w history .redisError w (.ret .unavailable)

section Commands

variable {α β γ : Type} (ev : α → LoginEvent)
  (run : Counters String Datetime → Datetime → α × Counters String Datetime)

/-- A command in a `try`, with the statements that follow it there and after it. -/
lemma caught_command_bind (body : α → Web β) (rest : Option β → Web γ) :
    (Web.caught (Web.command ev run >>= body) >>= rest) =
      .act (fun w => if w.redisUp then ev (run w.counters w.now).1 else .redisError)
        (fun w => if w.redisUp then { w with counters := (run w.counters w.now).2 } else w)
        (fun w => if w.redisUp then Web.caught (body (run w.counters w.now).1) >>= rest
          else rest none) := by
  show Prog.act _ _ _ = Prog.act _ _ _
  congr 1
  · funext w
    cases hup : w.redisUp <;> simp [hup] <;> rfl
  · funext w
    cases hup : w.redisUp <;> simp [hup]
  · funext w
    cases hup : w.redisUp <;> simp [hup] <;> rfl

lemma caught_command (rest : Option α → Web γ) :
    (Web.caught (Web.command ev run) >>= rest) =
      .act (fun w => if w.redisUp then ev (run w.counters w.now).1 else .redisError)
        (fun w => if w.redisUp then { w with counters := (run w.counters w.now).2 } else w)
        (fun w => if w.redisUp then rest (some (run w.counters w.now).1) else rest none) := by
  have hbind := caught_command_bind ev run .ret rest
  rwa [Prog.bind_ret] at hbind

end Commands

lemma login_of_allowed (h : originIsAllowed self.isProduction request = .ok true) :
    self.login request = (Web.caught (self.limiter.isBlocked request.identity) >>= fun
      | none => return .unavailable
      | some true => return .tooManyAttempts
      | some false => self.verify request) := by
  unfold LoginRoute.login
  rw [h]
  rfl

/-- A login that acts has passed the check of its origin. -/
lemma allowed_of_login {ev : LoginWorld → LoginEvent} {upd : LoginWorld → LoginWorld}
    {next : LoginWorld → Web LoginResponse} (h : self.login request = .act ev upd next) :
    originIsAllowed self.isProduction request = .ok true := by
  unfold LoginRoute.login at h
  cases hallowed : originIsAllowed self.isProduction request with
  | error e =>
    rw [hallowed] at h
    cases h
  | ok allowed =>
    cases allowed with
    | true => rfl
    | false =>
      rw [hallowed] at h
      cases h

/-- Everything that an action can do. -/
lemma effect_of_stage {ev : LoginWorld → LoginEvent} {upd : LoginWorld → LoginWorld}
    {next : LoginWorld → Web LoginResponse}
    (h : Stage self request history (.act ev upd next)) :
    Effect self request w history (ev w) (upd w) (next w) := by
  generalize hprog : Prog.act ev upd next = prog at h
  cases h with
  | begun =>
    rw [login_of_allowed (allowed_of_login hprog.symm), LoginRateLimiter.isBlocked,
      caught_command] at hprog
    cases hprog
    cases hup : w.redisUp with
    | false =>
      simp only [hup, Bool.false_eq_true, if_false]
      exact .failed (by decide)
    | true =>
      simp only [if_pos hup]
      by_cases hvalue : self.limiter.maxAttempts ≤ value w.counters w.now (self.key request)
      · rw [show self.limiter.key request.identity = self.key request from rfl,
          decide_eq_true hvalue]
        exact .blocked
      · rw [show self.limiter.key request.identity = self.key request from rfl,
          decide_eq_false hvalue]
        exact .passed (not_le.mp hvalue)
  | admitted =>
    cases hprog
    cases hverify : self.verifyPassword request.password with
    | true => exact .accepted hverify
    | false => exact .rejected hverify
  | rejected hwrong =>
    unfold LoginRoute.reject LoginRateLimiter.recordFailure at hprog
    rw [caught_command_bind] at hprog
    cases hprog
    cases hup : w.redisUp with
    | true =>
      simp only [if_pos hup]
      exact .counted
    | false =>
      simp only [hup, Bool.false_eq_true, if_false]
      exact .failed (by decide)
  | counted =>
    unfold afterCount at hprog
    rw [if_pos rfl, caught_command] at hprog
    cases hprog
    cases hup : w.redisUp with
    | true =>
      simp only [if_pos hup]
      exact .expiring
    | false =>
      simp only [hup, Bool.false_eq_true, if_false]
      exact .failed (by decide)
  | accepted hright =>
    unfold LoginRoute.accept LoginRateLimiter.clear at hprog
    rw [caught_command] at hprog
    cases hprog
    cases hup : w.redisUp with
    | true =>
      simp only [if_pos hup]
      exact .cleared hright
    | false =>
      simp only [hup, Bool.false_eq_true, if_false]
      exact .failed (by decide)
  | ended hended =>
    subst hprog
    cases hended

lemma isAdmitted_concat :
    isAdmitted (history ++ [e]) = (isAdmitted history || LoginEvent.checked false == e) := by
  rw [isAdmitted, List.contains_append, List.contains_cons, List.contains_nil, Bool.or_false,
    isAdmitted]

lemma Effect.stage (h : Effect self request w history e w' prog') :
    Stage self request (history ++ [e]) prog' := by
  cases h with
  | passed => exact .admitted
  | blocked => exact .ended rfl (by decide)
  | rejected hwrong => exact .rejected hwrong
  | accepted hright => exact .accepted hright
  | counted =>
    by_cases hcount : value w.counters w.now (self.key request) + 1 = 1
    · rw [hcount]
      exact .counted
    · have hended : (afterCount self request
          (value w.counters w.now (self.key request) + 1)).outcome = some (.ok .invalidCredentials) := by
        unfold afterCount
        rw [if_neg hcount]
        rfl
      exact .ended hended fun _ => rfl
  | expiring => exact .ended rfl (by decide)
  | cleared => exact .ended rfl (by decide)
  | failed hadmitted =>
    refine .ended rfl fun h => ?_
    rw [isAdmitted_concat, hadmitted (by simpa [isVerified, isCounted] using h)]
    rfl

/-- A password is verified only after the check. -/
lemma Stage.isAdmitted_of_isVerified {prog : Web LoginResponse}
    (h : Stage self request history prog) (hverified : isVerified history = true) :
    isAdmitted history = true := by
  cases h with
  | begun => cases hverified
  | admitted => rfl
  | rejected _ => rfl
  | counted => rfl
  | accepted _ => rfl
  | ended _ hadmitted => exact hadmitted (.inl hverified)

lemma Effect.now (h : Effect self request w history e w' prog') : w'.now = w.now := by
  cases h <;> rfl

/-- A request leaves the counters of others as they are. -/
lemma Effect.get_ne {k : String} (h : Effect self request w history e w' prog')
    (hne : k ≠ self.key request) : get w'.counters w.now k = get w.counters w.now k := by
  cases h with
  | counted => exact get_incr_ne hne
  | expiring => exact get_expireAt_ne hne
  | cleared => exact get_del_ne hne
  | _ => rfl

/-- A request that has the wrong password raises its counter exactly when it is counted. -/
lemma Effect.value_add (h : Effect self request w history e w' prog')
    (hwrong : self.verifyPassword request.password = false)
    (hwindow : w.now < w.now + seconds self.limiter.windowSeconds) :
    value w'.counters w.now (self.key request) + (if isCounted history then 1 else 0) =
      value w.counters w.now (self.key request) +
        (if isCounted (history ++ [e]) then 1 else 0) := by
  cases h with
  | accepted hright => simp [hwrong] at hright
  | cleared hright => simp [hwrong] at hright
  | counted => rw [value_incr_self]; rfl
  | expiring => rw [value_expireAt_self hwindow]; rfl
  | failed _ => simp [isCounted]
  | _ => rfl

/-- A counter that an action leaves is there for as long as it was before, or has expired from
then on only after a window. -/
lemma Effect.live {horizon : Datetime} (h : Effect self request w history e w' prog')
    (hwrong : self.verifyPassword request.password = false)
    (hhorizon : horizon < w.now + seconds self.limiter.windowSeconds)
    (hlive : ∀ c, get w.counters w.now (self.key request) = some c → c.Live horizon) :
    ∀ c, get w'.counters w.now (self.key request) = some c → c.Live horizon := by
  cases h with
  | cleared hright => simp [hwrong] at hright
  | counted =>
    intro c hc
    rw [get_incr_self] at hc
    cases hc
    intro expiry hexpiry
    obtain ⟨c, hc, hexpiry⟩ := Option.bind_eq_some_iff.mp hexpiry
    exact hlive c hc expiry hexpiry
  | expiring =>
    intro c hc expiry hexpiry
    rw [(get_expireAt_self hc).1] at hexpiry
    cases hexpiry
    exact hhorizon
  | _ => exact hlive

/-- A request passes its check only where the counter is low. -/
lemma Effect.admitted (h : Effect self request w history e w' prog') :
    isAdmitted (history ++ [e]) = isAdmitted history ∨
      isAdmitted history = false ∧ e = .checked false ∧
        value w.counters w.now (self.key request) < self.limiter.maxAttempts := by
  cases h with
  | passed hvalue => exact .inr ⟨rfl, rfl, hvalue⟩
  | failed _ =>
    rw [isAdmitted_concat]
    exact .inl (Bool.or_false _)
  | _ => exact .inl rfl

/-- A counter that does not expire has just been made, or was there before. -/
lemma Effect.unset (h : Effect self request w history e w' prog') {c : Counter Datetime}
    (hget : get w'.counters w.now (self.key request) = some c) (hnone : c.expiry = none) :
    isUnset (history ++ [e]) = true ∨ isUnset (history ++ [e]) = isUnset history ∧
      ∃ c, get w.counters w.now (self.key request) = some c ∧ c.expiry = none := by
  cases h with
  | counted =>
    cases hbefore : get w.counters w.now (self.key request) with
    | none =>
      rw [value_eq_zero hbefore]
      exact .inl rfl
    | some c' =>
      rw [get_incr_self, hbefore] at hget
      cases hget
      refine (em (value w.counters w.now (self.key request) = 0)).imp (fun hzero => ?_)
        fun hpos => ⟨?_, c', rfl, hnone⟩
      · rw [hzero]
        rfl
      · simp [isUnset, hpos]
  | expiring =>
    rw [(get_expireAt_self hget).1] at hnone
    cases hnone
  | cleared _ =>
    rw [get_del_self] at hget
    cases hget
  | failed _ => exact .inr ⟨by simp [isUnset], c, hget, hnone⟩
  | _ => exact .inr ⟨rfl, c, hget, hnone⟩

/-- Every request of the pool is somewhere in its code. -/
def Staged (self : LoginRoute) (p : LoginPool) : Prop :=
  ∀ th ∈ p.threads, Stage self th.call th.history th.prog

section Staged

variable {p q : LoginPool} {l : Label LoginRequest LoginEvent}
  {ok : LoginPool → Label LoginRequest LoginEvent → LoginPool → Prop}

lemma Staged.step (hp : Staged self p) (hs : Step (serving self) p l q) : Staged self q := by
  cases hs with
  | spawn request =>
    intro th hth
    rcases List.mem_append.mp hth with hth | hth
    · exact hp th hth
    · obtain rfl := List.mem_singleton.mp hth
      exact .begun
  | env _ => exact hp
  | act t ht =>
    intro th hth
    rcases List.mem_or_eq_of_mem_set hth with hth | rfl
    · exact hp th hth
    · exact (effect_of_stage (hp _ (List.mem_of_getElem? ht))).stage

lemma staged_of_run (h : Run (serving self) ok (Pool.init w) p) : Staged self p :=
  h.invariant (P := Staged self) nofun fun _ _ _ hq hs _ => hq.step hs

/-- Time does not run backwards. -/
lemma now_le_of_step (hp : Staged self p) (hs : Step (serving self) p l q) :
    p.state.now ≤ q.state.now := by
  cases hs with
  | spawn request => exact le_rfl
  | env henv => exact henv.1
  | act t ht => exact (effect_of_stage (w := p.state) (hp _ (List.mem_of_getElem? ht))).now.ge

lemma now_le_of_run (h : Run (serving self) ok (Pool.init w) p) : w.now ≤ p.state.now := by
  induction h with
  | refl => exact le_rfl
  | tail hr hs _ ih => exact ih.trans (now_le_of_step (staged_of_run hr) hs)

end Staged

/-! ### One counter -/

/-- The requests under a counter that have passed their check. -/
def admittedUnder (self : LoginRoute) (k : String) (p : LoginPool) : ℕ :=
  p.threads.countP fun th => self.key th.call = k && isAdmitted th.history

/-- The requests under a counter that have been counted. -/
def countedUnder (self : LoginRoute) (k : String) (p : LoginPool) : ℕ :=
  p.threads.countP fun th => self.key th.call = k && isCounted th.history

/-- Up to the horizon, a counter is at least as high as there are failures, and it stops those
that would be too many. -/
structure Held (route : LoginRoute) (k : String) (horizon : Datetime) (p : LoginPool) : Prop where
  wrong : ∀ th ∈ p.threads, route.key th.call = k → route.verifyPassword th.call.password = false
  live : ∀ c, get p.state.counters p.state.now k = some c → c.Live horizon
  counted : countedUnder route k p ≤ value p.state.counters p.state.now k
  admitted : admittedUnder route k p ≤ route.limiter.maxAttempts

section Held

variable {k : String} {horizon : Datetime} {p q : LoginPool}
  {l : Label LoginRequest LoginEvent}

lemma held_init (hlive : ∀ c, get w.counters w.now k = some c → c.Live horizon) :
    Held self k horizon (Pool.init w) where
  wrong := nofun
  live := hlive
  counted := Nat.zero_le _
  admitted := Nat.zero_le _

/-- As long as a counter does not expire, time does not change what is there. -/
lemma get_of_live {cs : Counters String Datetime} {now later : Datetime}
    (hlive : ∀ c, get cs now k = some c → c.Live horizon) (hle : now ≤ later)
    (hlater : later ≤ horizon) : get cs later k = get cs now k := by
  cases hget : get cs now k with
  | none =>
    refine Option.eq_none_iff_forall_ne_some.mpr fun c hc => ?_
    rw [get_of_later hc hle] at hget
    cases hget
  | some c =>
    exact get_eq_some.mpr ⟨(get_eq_some.mp hget).1, (hlive c hget).mono hlater⟩

lemma Held.spawn (hp : Held self k horizon p)
    (hok : self.key request = k → self.verifyPassword request.password = false) :
    Held self k horizon ⟨p.state, p.threads ++ [⟨request, [], self.login request⟩]⟩ where
  wrong th hth hkey := by
    rcases List.mem_append.mp hth with hth | hth
    · exact hp.wrong th hth hkey
    · obtain rfl := List.mem_singleton.mp hth
      exact hok hkey
  live := hp.live
  counted := by
    have hcounted := hp.counted
    simpa [countedUnder, isCounted] using hcounted
  admitted := by
    have hadmitted := hp.admitted
    simpa [admittedUnder, isAdmitted] using hadmitted

lemma Held.elapse (hp : Held self k horizon p) (h : Elapses p.state w) (hlater : w.now ≤ horizon) :
    Held self k horizon ⟨w, p.threads⟩ := by
  have hget : get w.counters w.now k = get p.state.counters p.state.now k := by
    rw [h.2, get_of_live hp.live h.1 hlater]
  refine ⟨hp.wrong, ?_, ?_, hp.admitted⟩
  · intro c hc
    exact hp.live c (hget ▸ hc)
  · have hcounted := hp.counted
    rw [value, ← hget] at hcounted
    exact hcounted

/-- What an action does to the counter that its request comes under. -/
lemma Held.act (hp : Held self k horizon p) (hnow : p.state.now ≤ horizon)
    (hhorizon : horizon < p.state.now + seconds self.limiter.windowSeconds) {t : ℕ}
    (ht : p.threads[t]? = some ⟨request, history, prog⟩)
    (h : Effect self request p.state history e w' prog')
    (hok : Orderly self k p (.act t request e)
      ⟨w', p.threads.set t ⟨request, history ++ [e], prog'⟩⟩) :
    Held self k horizon ⟨w', p.threads.set t ⟨request, history ++ [e], prog'⟩⟩ := by
  have hwrong : ∀ th ∈ p.threads.set t ⟨request, history ++ [e], prog'⟩,
      self.key th.call = k → self.verifyPassword th.call.password = false := by
    intro th hth
    rcases List.mem_or_eq_of_mem_set hth with hth | rfl
    · exact hp.wrong th hth
    · exact hp.wrong ⟨request, history, prog⟩ (List.mem_of_getElem? ht)
  have hcounted := hp.counted
  have hadmitted := hp.admitted
  have hset := countP_set (fun th => self.key th.call = k && isCounted th.history)
    ⟨request, history ++ [e], prog'⟩ ht
  by_cases hkey : self.key request = k
  · subst hkey
    have hpassword := hp.wrong ⟨request, history, prog⟩ (List.mem_of_getElem? ht) rfl
    refine ⟨hwrong, ?_, ?_, ?_⟩
    · rw [h.now]
      exact h.live hpassword hhorizon hp.live
    · have hvalue := h.value_add hpassword (hnow.trans_lt hhorizon)
      simp only [decide_true, Bool.true_and] at hset
      rw [h.now]
      simp only [countedUnder] at hcounted ⊢
      omega
    · rcases h.admitted with hsame | ⟨hnew, rfl, hvalue⟩
      · rw [admittedUnder, countP_set_same ht (by rw [hsame])]
        exact hadmitted
      · have hle : admittedUnder self (self.key request) p ≤
            countedUnder self (self.key request) p := by
          refine List.countP_mono_left fun th hth h => ?_
          obtain ⟨hkey, hadm⟩ := Bool.and_eq_true_iff.mp h
          rw [hkey, hok rfl th hth (of_decide_eq_true hkey) hadm]
          rfl
        rw [admittedUnder, countP_set_new ht (by simp [hnew]) (by simp [isAdmitted_concat])]
        exact ((hle.trans hcounted).trans_lt hvalue)
  · have hsame (f : List LoginEvent → Bool) :
        ((p.threads.set t ⟨request, history ++ [e], prog'⟩).countP fun th =>
          self.key th.call = k && f th.history) =
            p.threads.countP fun th => self.key th.call = k && f th.history :=
      countP_set_same ht (by simp [hkey])
    have hget : get w'.counters w'.now k = get p.state.counters p.state.now k := by
      rw [h.now, h.get_ne (Ne.symm hkey)]
    refine ⟨hwrong, ?_, ?_, ?_⟩
    · intro c hc
      exact hp.live c (hget ▸ hc)
    · rw [countedUnder, hsame isCounted, value, hget]
      exact hcounted
    · rw [admittedUnder, hsame isAdmitted]
      exact hadmitted

/-- One step. -/
lemma Held.step (hp : Held self k horizon p) (hstaged : Staged self p)
    (hs : Step (serving self) p l q) (hok : Orderly self k p l q) (hlater : q.state.now ≤ horizon)
    (hhorizon : horizon < p.state.now + seconds self.limiter.windowSeconds) :
    Held self k horizon q := by
  cases hs with
  | spawn request => exact hp.spawn hok
  | env henv => exact hp.elapse henv hlater
  | act t ht =>
    have heffect := effect_of_stage (w := p.state) (hstaged _ (List.mem_of_getElem? ht))
    refine hp.act ?_ hhorizon ht heffect hok
    rwa [heffect.now] at hlater

/-- A whole run. -/
lemma held_of_run (h : Run (serving self) (Orderly self k) (Pool.init w) p)
    (hwindow : horizon < w.now + seconds self.limiter.windowSeconds)
    (hlive : ∀ c, get w.counters w.now k = some c → c.Live horizon)
    (hlater : p.state.now ≤ horizon) : Held self k horizon p := by
  induction h with
  | refl => exact held_init hlive
  | @tail q r l hr hs hok ih =>
    have hstaged := staged_of_run hr
    have hq := ih ((now_le_of_step hstaged hs).trans hlater)
    refine hq.step hstaged hs hok hlater (hwindow.trans_le ?_)
    exact Int.add_le_add_right (now_le_of_run hr) _

end Held

/-! ### The limit -/

/-- Elements are counted by what they are mapped to. -/
lemma countP_le_sum {α β : Type*} [DecidableEq β] {P : α → Bool} {f : α → β} {s : Finset β}
    {l : List α} (h : ∀ a ∈ l, P a = true → f a ∈ s) :
    l.countP P ≤ ∑ b ∈ s, l.countP fun a => P a && f a = b := by
  induction l with
  | nil => exact Nat.zero_le _
  | cons a l ih =>
    have hrest := ih fun a' ha' => h a' (.tail a ha')
    simp only [List.countP_cons, Finset.sum_add_distrib]
    refine Nat.add_le_add hrest ?_
    cases hP : P a with
    | false => simp
    | true =>
      rw [if_pos rfl]
      simp [h a (.head l) hP]

/-- What the limiter holds a peer to. -/
lemma verifiedOf_le {peer : String} {p : LoginPool}
    (hwindow : p.state.now < w.now + seconds self.limiter.windowSeconds)
    (hlive : ∀ k ∈ keysOf self peer p, ∀ c,
      get w.counters w.now k = some c → c.Live p.state.now)
    (h : Run (serving self) (fun q l r => ∀ k ∈ keysOf self peer p, Orderly self k q l r)
      (Pool.init w) p) :
    verifiedOf peer p ≤
      ∑ k ∈ keysOf self peer p, min self.limiter.maxAttempts (requestsUnder self peer k p) := by
  have hstaged := staged_of_run h
  have hkeys : ∀ th ∈ p.threads,
      (decide (th.call.remoteAddr = peer) && isVerified th.history) = true →
        self.key th.call ∈ keysOf self peer p := by
    intro th hth hpeer
    obtain ⟨hpeer, -⟩ := Bool.and_eq_true_iff.mp hpeer
    rw [keysOf, List.mem_toFinset]
    exact List.mem_map_of_mem (List.mem_filter.mpr ⟨hth, hpeer⟩)
  refine (countP_le_sum hkeys).trans (Finset.sum_le_sum fun k hk => le_min ?_ ?_)
  · have hheld := held_of_run (h.mono fun _ _ _ hok => hok k hk) hwindow (hlive k hk) le_rfl
    refine (List.countP_mono_left fun th hth hthread => ?_).trans hheld.admitted
    simp only [Bool.and_eq_true] at hthread ⊢
    exact ⟨hthread.2, (hstaged th hth).isAdmitted_of_isVerified hthread.1.2⟩
  · refine List.countP_mono_left fun th hth hthread => ?_
    simp only [Bool.and_eq_true] at hthread ⊢
    exact ⟨hthread.1.1, hthread.2⟩

/-! ### Expiry -/

/-- The requests under a counter that have made it, and have not made it expire. -/
def unsetUnder (self : LoginRoute) (k : String) (p : LoginPool) : ℕ :=
  p.threads.countP fun th => self.key th.call = k && isUnset th.history

/-- A counter that does not expire has been left so by a request. -/
def Accounted (self : LoginRoute) (p : LoginPool) : Prop :=
  ∀ k c, get p.state.counters p.state.now k = some c → c.expiry = none → 0 < unsetUnder self k p

section Accounted

variable {p q : LoginPool} {l : Label LoginRequest LoginEvent}
  {ok : LoginPool → Label LoginRequest LoginEvent → LoginPool → Prop}

lemma Accounted.act (hp : Accounted self p) {t : ℕ}
    (ht : p.threads[t]? = some ⟨request, history, prog⟩)
    (h : Effect self request p.state history e w' prog') :
    Accounted self ⟨w', p.threads.set t ⟨request, history ++ [e], prog'⟩⟩ := by
  intro k c hget hnone
  rw [h.now] at hget
  by_cases hkey : self.key request = k
  · subst hkey
    have hset := countP_set (fun th => self.key th.call = self.key request && isUnset th.history)
      ⟨request, history ++ [e], prog'⟩ ht
    simp only [decide_true, Bool.true_and] at hset
    rcases h.unset hget hnone with hunset | ⟨hsame, c', hget', hnone'⟩
    · exact List.countP_pos_iff.mpr
        ⟨_, List.mem_set (List.getElem?_eq_some_iff.mp ht).1 _, by simp [hunset]⟩
    · rw [unsetUnder, countP_set_same ht (by rw [hsame])]
      exact hp _ c' hget' hnone'
  · rw [h.get_ne (Ne.symm hkey)] at hget
    rw [unsetUnder, countP_set_same ht (by simp [hkey])]
    exact hp k c hget hnone

lemma Accounted.step (hp : Accounted self p) (hstaged : Staged self p)
    (hs : Step (serving self) p l q) : Accounted self q := by
  cases hs with
  | spawn request =>
    intro k c hget hnone
    rw [unsetUnder, List.countP_append]
    exact Nat.lt_add_right _ (hp k c hget hnone)
  | env henv =>
    intro k c hget hnone
    rw [henv.2] at hget
    exact hp k c (get_of_later hget henv.1) hnone
  | act t ht => exact hp.act ht (effect_of_stage (hstaged _ (List.mem_of_getElem? ht)))

/-- Where no request is between its commands, every counter expires. -/
lemma expire_of_run (h : Run (serving self) ok (Pool.init w) p) (hw : Expire w)
    (hset : ∀ th ∈ p.threads, isUnset th.history = false) : Expire p.state := by
  have hinit : Staged self (Pool.init w) ∧ Accounted self (Pool.init w) := by
    refine ⟨nofun, fun k c hget hnone => ?_⟩
    have hsome := hw k c hget
    rw [hnone] at hsome
    cases hsome
  have haccounted := (h.invariant (P := fun p => Staged self p ∧ Accounted self p) hinit
    fun _ _ _ hq hs _ => ⟨hq.1.step hs, hq.2.step hq.1 hs⟩).2
  intro k c hget
  by_contra hnone
  obtain ⟨th, hth, hunset⟩ := List.countP_pos_iff.mp
    (haccounted k c hget (Option.not_isSome_iff_eq_none.mp hnone))
  rw [hset th hth, Bool.and_false] at hunset
  cases hunset

end Accounted

/-! ### The result -/

variable (self)

/-- A peer whose requests come under identities that together allow no more attempts than one,
each counted before the next passes, has no more passwords verified than that; and every counter
expires where no request is between the commands that make one. -/
theorem limited :
    (∀ (peer : String) (w : LoginWorld) (p : LoginPool),
      Run (serving self) (fun q l r => ∀ k ∈ keysOf self peer p, Orderly self k q l r)
        (Pool.init w) p →
      p.state.now < w.now + seconds self.limiter.windowSeconds →
      (∀ k ∈ keysOf self peer p, ∀ c, get w.counters w.now k = some c → c.Live p.state.now) →
      ∑ k ∈ keysOf self peer p, min self.limiter.maxAttempts (requestsUnder self peer k p) ≤
        self.limiter.maxAttempts →
      verifiedOf peer p ≤ self.limiter.maxAttempts) ∧
    ∀ (w : LoginWorld) (p : LoginPool), Run (serving self) (fun _ _ _ => True) (Pool.init w) p →
      Expire w → (∀ th ∈ p.threads, isUnset th.history = false) → Expire p.state :=
  ⟨fun _ _ _ h hwindow hlive hsum => (verifiedOf_le hwindow hlive h).trans hsum,
    fun _ _ h hw hset => expire_of_run h hw hset⟩

variable {self}

/-! ### Runs of two peers -/

/-- Whether a step is orderly under every counter. -/
def isOrderly (self : LoginRoute) (p : LoginPool) : Label LoginRequest LoginEvent → Bool
  | .spawn request => !self.verifyPassword request.password
  | .act _ _ (.checked false) =>
    p.threads.all fun th => !isAdmitted th.history || isCounted th.history
  | _ => true

lemma orderly_of_isOrderly {p q : LoginPool} {l : Label LoginRequest LoginEvent}
    (h : isOrderly self p l = true) (k : String) : Orderly self k p l q := by
  unfold Orderly
  split
  · intro _
    simpa [isOrderly] using h
  · intro _ th hth _ hadmitted
    simpa [hadmitted] using List.all_eq_true.mp h th hth
  · trivial

/-- The application behind its proxy. -/
def shipped : LoginRoute where
  isProduction := true
  limiter.sha256 := Sha256.ofTable [
    ("10.0.0.1", "f5047344122f0dee9974ba6761e61c6b8649e1f3968d13a635ebbf7be53a3a0d"),
    ("10.0.0.2", "cb5f37b4762871e6bbeccee663cb332438340c469160c634566ecc7c7e01009f"),
    ("10.0.0.3", "a9a5126d7cca4ab5eecee72061f1e2060f6022266c74209f9fec62e986adc091"),
    ("10.0.0.4", "180d338d162d679021525abcb9d66e204995f70878f54acaf955be60c52ed92c"),
    ("10.0.0.5", "0546412d61ba57f140cbc562c81ed83fb1b8aae26b57bb1ac00d5eddc798ac0f"),
    ("10.0.0.6", "a75a740cd356d0c925be5c8641af7d5726c8c145fc6a37aca1b075578155e427"),
    ("203.0.113.7", "fec52565aa0cf18f57d7cf5b3ac728503b8992d2d6f7d46da1d1201090902b02")]
  verifyPassword password := password = "correct horse battery staple"

/-- A guess of a peer, with the `X-Forwarded-For` headers that it sends. -/
def guess (forwardedFor : List String) : LoginRequest where
  remoteAddr := "203.0.113.7"
  forwardedFor := forwardedFor
  origin := some "https://hq.example.com"
  scheme := "https"
  host := "hq.example.com"
  password := "password"

/-- A peer that sends no such header and guesses twice. -/
def guessTwice : LoginPool :=
  play (serving shipped) (Pool.init {})
    [.spawn (guess []), .act 0, .act 0, .act 0, .act 0, .spawn (guess []), .act 1, .act 1, .act 1]

theorem limited_guessTwice :
    verifiedOf "203.0.113.7" guessTwice ≤ 5 ∧ Expire guessTwice.state := by
  have hrun : Run (serving shipped)
      (fun q l r => ∀ k ∈ keysOf shipped "203.0.113.7" guessTwice, Orderly shipped k q l r)
      (Pool.init {}) guessTwice := by
    refine run_play (admissible_of_admits (T := isOrderly shipped) ?_ (by simp) ?_)
    · exact fun _ _ _ h k _ => orderly_of_isOrderly h k
    · decide +kernel
  obtain ⟨hverified, hexpire⟩ := limited shipped
  exact ⟨hverified "203.0.113.7" {} guessTwice hrun (by decide +kernel) nofun (by decide +kernel),
    hexpire {} guessTwice (hrun.mono fun _ _ _ _ => trivial) nofun (by decide)⟩

/-- A peer that writes another address into each of its requests. -/
def guessSixTimes : List (Move LoginRequest LoginWorld) :=
  (List.range 6).flatMap fun t =>
    .spawn (guess ["10.0.0." ++ toString (t + 1)]) :: List.replicate 4 (.act t)

/-- Six passwords of one peer are verified where five are allowed, and a login that is stopped
between its two commands leaves a counter that never expires. -/
theorem not_limited :
    (¬∀ (peer : String) (p : LoginPool),
      Run (serving shipped) (fun _ _ _ => True) (Pool.init {}) p →
      p.state.now < seconds shipped.limiter.windowSeconds →
      (∀ th ∈ p.threads, shipped.verifyPassword th.call.password = false) →
      verifiedOf peer p ≤ shipped.limiter.maxAttempts) ∧
    ¬∀ p : LoginPool, Run (serving shipped) (fun _ _ _ => True) (Pool.init {}) p →
      Expire p.state := by
  constructor
  · intro h
    have hsix := h "203.0.113.7" (play (serving shipped) (Pool.init {}) guessSixTimes)
      (run_play (admissible_of_env (fun _ _ _ => trivial) (by simp [guessSixTimes])))
      (by decide +kernel) (by decide +kernel)
    revert hsix
    decide +kernel
  · intro h
    have hexpire := h
      (play (serving shipped) (Pool.init {}) [.spawn (guess []), .act 0, .act 0, .act 0])
      (run_play (admissible_of_env (fun _ _ _ => trivial) (by simp)))
    have hcounter := hexpire (shipped.key (guess [])) ⟨1, none⟩ (by decide)
    cases hcounter

end Limiting
end AiHq
