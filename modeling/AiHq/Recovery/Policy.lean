import AiHq.Recovery.Service

/-!
# The recovery policy

What is to be done about one observation of a component. The decision is a pure function of the
readiness of DripVid, the state of the component's service, and the failures so far.
-/

namespace AiHq

inductive RecoveryAction where
  | observe | diagnose | recover | escalate | resolved
  deriving DecidableEq, Repr

structure RecoveryDecision where
  action : RecoveryAction
  component : Option String
  reason : String
  deriving DecidableEq

/-- `readiness.get(key) is value` -/
def isBool (values : Dict) (key : String) (value : Bool) : Prop :=
  Dict.get values key = some (.bool value)

instance (values : Dict) (key : String) (value : Bool) : Decidable (isBool values key value) :=
  match h : Dict.get values key with
  | some (.bool b) =>
    if hb : b = value then .isTrue (by rw [isBool, h, hb])
    else .isFalse (by rw [isBool, h]; simpa using hb)
  | some .null | some (.int _) | some (.float _ _) | some (.str _) | some (.list _)
  | some (.obj _) | none => .isFalse (by rw [isBool, h]; simp)

/-- `storage.get(key) is value`, where `storage` is a mapping. -/
def storageIs (readiness : Dict) (key : String) (value : Bool) : Prop :=
  match Dict.get readiness "storage" with
  | some (.obj storage) => isBool storage key value
  | _ => False

instance (readiness : Dict) (key : String) (value : Bool) :
    Decidable (storageIs readiness key value) := by
  unfold storageIs
  split <;> infer_instance

/-- `_storage_decision` -/
def storageDecision (readiness : Dict) : Option RecoveryDecision :=
  if storageIs readiness "available" false then
    some ⟨.escalate, none, "storage_unavailable"⟩
  else if storageIs readiness "writable" false then
    some ⟨.escalate, none, "storage_unwritable"⟩
  else if isBool readiness "ok" true ∧ storageIs readiness "belowReserve" true then
    some ⟨.observe, none, "storage_below_reserve"⟩
  else none

/-- `str.casefold()`, as far as the comparison with a word without `s` and `k` can tell. -/
def casefold (s : String) : String := String.ofList (s.toList.map Char.toLower)

/-- `(service_state or "").casefold() in states` -/
def stateIn (serviceState : Option String) (states : List String) : Bool :=
  casefold (serviceState.getD "") ∈ states

def serviceDown (serviceState : Option String) : Bool :=
  stateIn serviceState ["inactive", "failed"]

def serviceRunning (serviceState : Option String) : Bool :=
  stateIn serviceState ["active", "running"]

def decideRecovery (component : Option String) (serviceState : Option String)
    (consecutiveFailures failureThreshold : ℤ) (readiness : Dict) : RecoveryDecision :=
  match storageDecision readiness with
  | some decision => decision
  | none =>
    if isBool readiness "ok" true then ⟨.resolved, none, "readiness_healthy"⟩
    else if consecutiveFailures < failureThreshold then
      ⟨.observe, component, "failure_threshold_not_met"⟩
    else match component with
      | none => ⟨.diagnose, none, "component_not_identified"⟩
      | some component =>
        if component ∉ recoveryComponents then ⟨.escalate, none, "unknown_component"⟩
        else if component = "database" then
          if serviceDown serviceState then
            ⟨.recover, some "database", "database_service_inactive_or_failed"⟩
          else if serviceRunning serviceState ∧ isBool readiness "database" false then
            ⟨.escalate, some "database", "database_running_but_unhealthy"⟩
          else ⟨.diagnose, some "database", "database_state_requires_diagnosis"⟩
        else if serviceDown serviceState then
          ⟨.recover, some component, "service_inactive_or_failed"⟩
        else if serviceRunning serviceState then
          ⟨.diagnose, some component, "service_running_readiness_failed"⟩
        else ⟨.diagnose, some component, "service_state_uncertain"⟩

section Decisions

variable {component : String} {serviceState : Option String} {failures threshold : ℤ}
  {readiness : Dict}

lemma storageDecision_of_not_ok (havailable : ¬storageIs readiness "available" false)
    (hwritable : ¬storageIs readiness "writable" false) (hok : ¬isBool readiness "ok" true) :
    storageDecision readiness = none := by
  rw [storageDecision, if_neg havailable, if_neg hwritable, if_neg fun h => hok h.1]

/-- With the storage in order and readiness not confirmed, a component that is down often enough
is recovered. -/
lemma decideRecovery_recover (havailable : ¬storageIs readiness "available" false)
    (hwritable : ¬storageIs readiness "writable" false) (hok : ¬isBool readiness "ok" true)
    (hcomponent : component ∈ recoveryComponents) (hdown : serviceDown serviceState)
    (hthreshold : threshold ≤ failures) : ∃ reason,
    decideRecovery (some component) serviceState failures threshold readiness =
      ⟨.recover, some component, reason⟩ := by
  simp only [decideRecovery, storageDecision_of_not_ok havailable hwritable hok, if_neg hok,
    if_neg (not_lt.mpr hthreshold), if_neg (not_not.mpr hcomponent), hdown, if_true]
  split_ifs with hdatabase
  · exact ⟨_, by rw [hdatabase]⟩
  · exact ⟨_, rfl⟩

/-- Whoever finds DripVid ready takes no action on any component. -/
lemma decideRecovery_of_ok (havailable : ¬storageIs readiness "available" false)
    (hwritable : ¬storageIs readiness "writable" false) (hok : isBool readiness "ok" true)
    (component : Option String) :
    (decideRecovery component serviceState failures threshold readiness).action ≠ .recover ∧
      (decideRecovery component serviceState failures threshold readiness).action ≠ .escalate := by
  simp only [decideRecovery, storageDecision, if_neg havailable, if_neg hwritable]
  by_cases hbelow : storageIs readiness "belowReserve" true
  · simp only [hok, hbelow, and_self, if_true]
    exact ⟨fun h => (nomatch h), fun h => (nomatch h)⟩
  · simp only [hok, hbelow, and_false, if_false, if_true]
    exact ⟨fun h => (nomatch h), fun h => (nomatch h)⟩

lemma decideRecovery_reason (component : Option String) :
    (decideRecovery component serviceState failures threshold readiness).reason ≠ "" := by
  unfold decideRecovery
  cases hstorage : storageDecision readiness with
  | some decision =>
    unfold storageDecision at hstorage
    split_ifs at hstorage <;> cases hstorage <;> simp
  | none =>
    cases component with
    | none => dsimp only; split_ifs <;> simp
    | some component => dsimp only; split_ifs <;> simp

/-- Only what is down is recovered, and only once the threshold is met. -/
lemma down_of_recover {component : Option String}
    (h : (decideRecovery component serviceState failures threshold readiness).action = .recover) :
    serviceDown serviceState ∧ threshold ≤ failures ∧ ¬isBool readiness "ok" true ∧
      ∃ c ∈ recoveryComponents, component = some c ∧
        (decideRecovery component serviceState failures threshold readiness).component = some c := by
  cases hstorage : storageDecision readiness with
  | some decision =>
    simp only [decideRecovery, hstorage] at h
    unfold storageDecision at hstorage
    split_ifs at hstorage <;> cases hstorage <;> cases h
  | none =>
    by_cases hok : isBool readiness "ok" true
    · simp [decideRecovery, hstorage, hok] at h
    · by_cases hthreshold : failures < threshold
      · simp [decideRecovery, hstorage, hok, hthreshold] at h
      · cases component with
        | none => simp [decideRecovery, hstorage, hok, hthreshold] at h
        | some c =>
          simp only [decideRecovery, hstorage, if_neg hok, if_neg hthreshold] at h ⊢
          by_cases hknown : c ∈ recoveryComponents
          · rw [if_neg (not_not.mpr hknown)] at h ⊢
            by_cases hdown : serviceDown serviceState = true
            · refine ⟨hdown, not_lt.mp hthreshold, hok, c, hknown, rfl, ?_⟩
              rw [if_pos hdown, if_pos hdown]
              split_ifs with hdatabase
              · rw [hdatabase]
              · rfl
            · rw [if_neg hdown, if_neg hdown] at h
              split_ifs at h
          · rw [if_pos hknown] at h
            cases h

end Decisions

end AiHq
