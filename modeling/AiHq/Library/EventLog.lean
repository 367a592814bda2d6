import Mathlib

/-!
# Logs of events that tell a value

A log records how a value changes: some of its events tell what the value is from then on, and
some say what it was before.
-/

namespace EventLog

universe u v

variable {E : Type u} {S : Type v} (tells : E → Option S) (log : List E)

/-- The value after the events, told by the last of them that tells one. -/
def replay : Option S := log.foldl (fun value e => (tells e).or value) none

/-- Each event that says what the value was before it agrees with the events before it. -/
def Coherent (was : E → Option (Option S)) : Prop :=
  ∀ lead e rest, log = lead ++ e :: rest → ∀ value, was e = some value →
    value = replay tells lead

variable {tells log} {was : E → Option (Option S)} {e : E} {events : List E}

@[simp] lemma replay_nil : replay tells [] = none := rfl

@[simp] lemma replay_snoc : replay tells (log ++ [e]) = (tells e).or (replay tells log) := by
  simp [replay, List.foldl_append]

@[simp] lemma coherent_nil : Coherent tells [] was := by
  intro lead e rest h
  simp at h

lemma coherent_snoc (h : Coherent tells log was)
    (he : ∀ value, was e = some value → value = replay tells log) :
    Coherent tells (log ++ [e]) was := by
  intro lead e' rest hlog value hvalue
  rcases List.eq_nil_or_concat rest with rfl | ⟨rest, last, rfl⟩
  · obtain ⟨rfl, rfl⟩ : log = lead ∧ e = e' := by simpa using List.append_inj' hlog rfl
    exact he value hvalue
  · have hlead : log = lead ++ e' :: rest := by
      rw [List.concat_eq_append, ← List.cons_append, ← List.append_assoc] at hlog
      exact (List.append_inj' hlog rfl).1
    exact h lead e' rest hlead value hvalue

/-- Events that neither tell nor say anything change nothing. -/
lemma replay_append_silent (h : ∀ e ∈ events, tells e = none) :
    replay tells (log ++ events) = replay tells log := by
  induction events using List.reverseRecOn with
  | nil => rw [List.append_nil]
  | append_singleton events e ih =>
    rw [← List.append_assoc, replay_snoc, h e (by simp), Option.none_or]
    exact ih fun e he => h e (List.mem_append_left _ he)

lemma coherent_append_silent (h : Coherent tells log was) (hsilent : ∀ e ∈ events, was e = none) :
    Coherent tells (log ++ events) was := by
  induction events using List.reverseRecOn with
  | nil => rwa [List.append_nil]
  | append_singleton events e ih =>
    rw [← List.append_assoc]
    refine coherent_snoc (ih fun e he => hsilent e (List.mem_append_left _ he)) ?_
    intro value hvalue
    rw [hsilent e (by simp)] at hvalue
    cases hvalue

end EventLog
