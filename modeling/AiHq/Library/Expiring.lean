import Mathlib

/-!
# Counters that expire

A store of counters under keys. A counter may have an instant from which on it is not there any
more; it is not removed before the next command on its key.
-/

namespace Expiring

universe u v

structure Counter (τ : Type v) where
  value : ℕ
  expiry : Option τ
  deriving DecidableEq, Repr

/-- The counter has not expired at an instant. -/
def Counter.Live {τ : Type v} [LT τ] (now : τ) (c : Counter τ) : Prop := ∀ e ∈ c.expiry, now < e

instance {τ : Type v} [LT τ] [DecidableLT τ] (now : τ) (c : Counter τ) :
    Decidable (c.Live now) := by
  unfold Counter.Live
  infer_instance

abbrev Counters (κ : Type u) (τ : Type v) := κ → Option (Counter τ)

variable {κ : Type u} {τ : Type v} [LinearOrder τ]

/-! ### Reading -/

section Reading

def get (cs : Counters κ τ) (now : τ) (k : κ) : Option (Counter τ) :=
  (cs k).filter fun c => c.Live now

/-- The value of a counter, which is zero if it is not there. -/
def value (cs : Counters κ τ) (now : τ) (k : κ) : ℕ := ((get cs now k).map Counter.value).getD 0

variable {cs : Counters κ τ} {now later : τ} {k : κ} {c : Counter τ}

lemma Counter.Live.mono (h : c.Live later) (hle : now ≤ later) : c.Live now :=
  fun e he => hle.trans_lt (h e he)

lemma get_eq_some : get cs now k = some c ↔ cs k = some c ∧ c.Live now := by
  simp [get, Option.filter_eq_some_iff]

/-- What is there later has been there all the time, if nothing is done with it. -/
lemma get_of_later (h : get cs later k = some c) (hle : now ≤ later) : get cs now k = some c := by
  obtain ⟨hc, hlive⟩ := get_eq_some.mp h
  exact get_eq_some.mpr ⟨hc, hlive.mono hle⟩

lemma value_eq_zero (h : get cs now k = none) : value cs now k = 0 := by
  rw [value, h]
  rfl

lemma value_of_get (h : get cs now k = some c) : value cs now k = c.value := by
  rw [value, h]
  rfl

end Reading

/-! ### Commands -/

section Commands

variable [DecidableEq κ]

/-- Count up; a new counter does not expire, and one that is there expires when it did before. -/
def incr (cs : Counters κ τ) (now : τ) (k : κ) : ℕ × Counters κ τ :=
  (value cs now k + 1,
    Function.update cs k (some ⟨value cs now k + 1, (get cs now k).bind Counter.expiry⟩))

/-- Let a counter expire, if it is there. -/
def expireAt (cs : Counters κ τ) (now : τ) (k : κ) (e : τ) : Counters κ τ :=
  (get cs now k).elim cs fun c => Function.update cs k (some { c with expiry := some e })

def del (cs : Counters κ τ) (k : κ) : Counters κ τ := Function.update cs k none

variable {cs : Counters κ τ} {now later e : τ} {k k' : κ} {c : Counter τ}

lemma get_update_ne {x : Option (Counter τ)} (h : k' ≠ k) :
    get (Function.update cs k x) later k' = get cs later k' := by
  rw [get, Function.update_of_ne h, get]

lemma get_incr_ne (h : k' ≠ k) : get (incr cs now k).2 later k' = get cs later k' :=
  get_update_ne h

lemma get_incr_self : get (incr cs now k).2 now k =
    some ⟨value cs now k + 1, (get cs now k).bind Counter.expiry⟩ := by
  refine get_eq_some.mpr ⟨Function.update_self _ _ _, fun e he => ?_⟩
  obtain ⟨c, hc, he⟩ := Option.bind_eq_some_iff.mp he
  exact (get_eq_some.mp hc).2 e he

@[simp] lemma value_incr_self : value (incr cs now k).2 now k = value cs now k + 1 :=
  value_of_get get_incr_self

lemma get_expireAt_ne (h : k' ≠ k) : get (expireAt cs now k e) later k' = get cs later k' := by
  unfold expireAt
  cases get cs now k with
  | none => rfl
  | some c => exact get_update_ne h

/-- The counter that expires is there now. -/
lemma get_expireAt_self (h : get (expireAt cs now k e) now k = some c) :
    c.expiry = some e ∧ ∃ c', get cs now k = some c' ∧ c'.value = c.value := by
  unfold expireAt at h
  cases hc : get cs now k with
  | none =>
    rw [hc, Option.elim_none, hc] at h
    cases h
  | some c' =>
    rw [hc, Option.elim_some] at h
    obtain ⟨hself, -⟩ := get_eq_some.mp h
    rw [Function.update_self] at hself
    obtain rfl := Option.some.inj hself
    exact ⟨rfl, c', rfl, rfl⟩

lemma value_expireAt_self (h : now < e) :
    value (expireAt cs now k e) now k = value cs now k := by
  unfold expireAt
  cases hc : get cs now k with
  | none => rfl
  | some c =>
    have hlive : get (Function.update cs k (some { c with expiry := some e })) now k =
        some { c with expiry := some e } :=
      get_eq_some.mpr ⟨Function.update_self _ _ _, fun e' he' => Option.some.inj he' ▸ h⟩
    rw [Option.elim_some, value_of_get hlive, value_of_get hc]

lemma get_del_ne (h : k' ≠ k) : get (del cs k) later k' = get cs later k' := get_update_ne h

lemma get_del_self : get (del cs k) now k = none := by
  rw [get, del, Function.update_self]
  rfl

end Commands

end Expiring
