import AiHq.Approvals.Service
import AiHq.CodeChanges.CandidateStore

/-!
# Canonical fingerprints

Two actions have the same text to be hashed exactly when they are equal as JSON values, whatever
the order of the keys in their plans, and so do the values whose digests identify candidates.
-/

namespace AiHq

open Json ApprovalService

namespace Fingerprint

/-- The text that `canonical_action_fingerprint` hashes. -/
def actionPayload (action target : String) (actionPlan : Dict) : String :=
  String.ofList (Json.dumps (.obj
    [("action", .str action), ("target", .str target), ("action_plan", .obj actionPlan)]))

lemma canonicalActionFingerprint_eq (self : ApprovalService) (action target : String)
    (actionPlan : Dict) : self.canonicalActionFingerprint action target actionPlan =
      self.sha256 (actionPayload action target actionPlan) := rfl

/-- The bytes of two texts in UTF-8 are the same exactly when the texts are. -/
lemma toUTF8_inj {s t : String} : s.toUTF8 = t.toUTF8 ↔ s = t := String.toByteArray_inj

variable {action action' target target' : String} {actionPlan actionPlan' : Dict} {x y : Json}
  {sha256 : Sha256}

lemma canonicalText_inj (hx : Floatless x) (hy : Floatless y) :
    (canonicalText x).toUTF8 = (canonicalText y).toUTF8 ↔ Same x y := by
  rw [toUTF8_inj, canonicalText, canonicalText, String.ofList_inj, dumps_eq_iff hx hy]

lemma floatless_action (h : Floatless (.obj actionPlan)) : Floatless (.obj
    [("action", .str action), ("target", .str target), ("action_plan", .obj actionPlan)]) := by
  refine .obj (by simp) ?_
  simp only [List.forall_mem_cons, List.not_mem_nil, false_implies, implies_true, and_true]
  exact ⟨.str action, .str target, h⟩

lemma same_str {s s' : String} : Same (.str s) (.str s') ↔ s = s' := by
  constructor
  · intro h
    cases h
    rfl
  · rintro rfl
    exact .str s

lemma rel_some {a b : Json} : Option.Rel Same (some a) (some b) ↔ Same a b := by
  constructor
  · intro h
    cases h with | some h => exact h
  · exact .some

lemma same_action : Same
    (.obj [("action", .str action), ("target", .str target), ("action_plan", .obj actionPlan)])
    (.obj [("action", .str action'), ("target", .str target'),
      ("action_plan", .obj actionPlan')]) ↔
      action = action' ∧ target = target' ∧ Same (.obj actionPlan) (.obj actionPlan') := by
  constructor
  · intro h
    cases h with | obj h =>
    have haction := h "action"
    have htarget := h "target"
    have hplan := h "action_plan"
    simp only [Dict.get, List.lookup_cons_self, rel_some, same_str] at haction
    simp only [Dict.get, List.lookup, String.reduceBEq, rel_some, same_str] at htarget hplan
    exact ⟨haction, htarget, hplan⟩
  · rintro ⟨rfl, rfl, h⟩
    refine .obj fun key => ?_
    simp only [Dict.get, List.lookup]
    cases key == "action" with
    | true => exact .some (.str action)
    | false =>
      cases key == "target" with
      | true => exact .some (.str target)
      | false =>
        cases key == "action_plan" with
        | true => exact .some h
        | false => exact .none

lemma actionPayload_inj (h : Floatless (.obj actionPlan)) (h' : Floatless (.obj actionPlan')) :
    (actionPayload action target actionPlan).toUTF8 =
        (actionPayload action' target' actionPlan').toUTF8 ↔
      action = action' ∧ target = target' ∧ Same (.obj actionPlan) (.obj actionPlan') := by
  rw [← same_action]
  exact canonicalText_inj (floatless_action h) (floatless_action h')

lemma textDigest_inj {s t : String} : textDigest sha256 s = textDigest sha256 t ↔
    sha256.hexdigest s.toUTF8 = sha256.hexdigest t.toUTF8 := by
  rw [textDigest, textDigest, ← String.toList_inj, String.toList_append, String.toList_append,
    List.append_cancel_left_eq, String.toList_inj]

/-- A digest of values on whose texts SHA-256 has no collision. -/
lemma digestOf_inj (hx : Floatless x) (hy : Floatless y)
    (hcollision : sha256.hexdigest (canonicalText x).toUTF8 =
        sha256.hexdigest (canonicalText y).toUTF8 →
      (canonicalText x).toUTF8 = (canonicalText y).toUTF8) :
    digestOf sha256 x = digestOf sha256 y ↔ Same x y := by
  rw [← canonicalText_inj hx hy, digestOf, digestOf, textDigest_inj]
  exact ⟨hcollision, congrArg sha256.hexdigest⟩

/-- What is hashed says what the action or the value is, up to the order of the keys, and as long
as there is no collision so does the hash. -/
theorem fingerprint_eq_iff (approvals : ApprovalService) (store : CandidateStore)
    (sandbox : IsolatedRepositorySandbox) :
    (∀ action target action' target' (actionPlan actionPlan' : Dict),
      Floatless (.obj actionPlan) → Floatless (.obj actionPlan') →
      let payload := actionPayload action target actionPlan
      let payload' := actionPayload action' target' actionPlan'
      let same := action = action' ∧ target = target' ∧
        Same (.obj actionPlan) (.obj actionPlan')
      (payload.toUTF8 = payload'.toUTF8 ↔ same) ∧
      ((approvals.sha256 payload = approvals.sha256 payload' → payload = payload') →
        (approvals.canonicalActionFingerprint action target actionPlan =
          approvals.canonicalActionFingerprint action' target' actionPlan' ↔ same))) ∧
    ∀ x y : Json, Floatless x → Floatless y →
      let bytes := (canonicalText x).toUTF8
      let bytes' := (canonicalText y).toUTF8
      (bytes = bytes' ↔ Same x y) ∧
      ((store.sha256.hexdigest bytes = store.sha256.hexdigest bytes' → bytes = bytes') →
        (digestOf store.sha256 x = digestOf store.sha256 y ↔ Same x y)) ∧
      ((sandbox.sha256.hexdigest bytes = sandbox.sha256.hexdigest bytes' → bytes = bytes') →
        (sandbox.canonicalDigest x = sandbox.canonicalDigest y ↔ Same x y)) := by
  constructor
  · intro action target action' target' actionPlan actionPlan' hplan hplan' payload payload' same
    have hpayload : payload.toUTF8 = payload'.toUTF8 ↔ same := actionPayload_inj hplan hplan'
    refine ⟨hpayload, fun hcollision => ?_⟩
    rw [← hpayload, toUTF8_inj]
    exact ⟨hcollision, congrArg approvals.sha256⟩
  · intro x y hx hy bytes bytes'
    exact ⟨canonicalText_inj hx hy, digestOf_inj hx hy, digestOf_inj hx hy⟩

/-- A plan whose keys come in another order is the same plan for the approval. -/
theorem fingerprint_eq_of_swapped : canonicalActionFingerprint ⟨id⟩ "deploy" "production"
      [("commit", .str "é😀"), ("attempts", .int 2)] =
    canonicalActionFingerprint ⟨id⟩ "deploy" "production"
      [("attempts", .int 2), ("commit", .str "é😀")] := by
  have hplan : ∀ fields : Dict, (fields.map Prod.fst).Nodup →
      (∀ field ∈ fields, field.2 = .str "é😀" ∨ field.2 = .int 2) → Floatless (.obj fields) := by
    intro fields hkeys h
    refine .obj hkeys fun field hfield => ?_
    obtain h | h := h field hfield <;> rw [h]
    · exact .str "é😀"
    · exact .int 2
  have hsame : Same (.obj [("commit", .str "é😀"), ("attempts", .int 2)])
      (.obj [("attempts", .int 2), ("commit", .str "é😀")]) := by
    refine .obj fun key => ?_
    simp only [Dict.get, List.lookup]
    by_cases hcommit : key = "commit"
    · subst hcommit
      exact .some (.str "é😀")
    · rw [beq_eq_false_iff_ne.mpr hcommit]
      cases key == "attempts" with
      | true => exact .some (.int 2)
      | false => exact .none
  have h := (fingerprint_eq_iff ⟨id⟩ ⟨[], .ofTable []⟩
      (.sample [] (fun _ _ t => (.error (.runtimeError ""), t)) fun _ _ _ _ => [])).1
    "deploy" "production" "deploy" "production"
    [("commit", .str "é😀"), ("attempts", .int 2)] [("attempts", .int 2), ("commit", .str "é😀")]
    (hplan _ (by decide) (by simp)) (hplan _ (by decide) (by simp))
  exact (h.2 id).mpr ⟨rfl, rfl, hsame⟩

end Fingerprint
end AiHq
