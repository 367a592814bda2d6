import Mathlib

/-!
# Greedy selections

Items are taken from a list in its order while a budget lasts: an item is skipped only if it is not
allowed or does not fit into what is left of the budget.
-/

namespace Greedy

universe u v

variable {α : Type u} {κ : Type v} [DecidableEq κ]

/-- The items with the keys of the chosen ones, where no two have the same key. -/
lemma filter_of_sublist {chosen items : List α} {key : α → κ} (h : chosen.Sublist items)
    (hkeys : (items.map key).Nodup) :
    items.filter (fun x => key x ∈ chosen.map key) = chosen := by
  induction h with
  | slnil => rfl
  | @cons chosen items a h ih =>
    rw [List.map_cons, List.nodup_cons] at hkeys
    have ha : key a ∉ chosen.map key := fun hmem => hkeys.1 ((h.map key).subset hmem)
    rw [List.filter_cons_of_neg (by simpa using ha), ih hkeys.2]
  | @cons_cons chosen items a h ih =>
    rw [List.map_cons, List.nodup_cons] at hkeys
    have hrest : items.filter (fun x => key x ∈ (a :: chosen).map key) =
        items.filter (fun x => key x ∈ chosen.map key) := by
      refine List.filter_congr fun x hx => ?_
      have hne : key x ≠ key a := fun heq => hkeys.1 (heq ▸ List.mem_map_of_mem hx)
      rw [List.map_cons, decide_eq_decide, List.mem_cons]
      exact ⟨fun hmem => hmem.resolve_left hne, .inr⟩
    rw [List.filter_cons_of_pos (by simp), hrest, ih hkeys.2]

variable (weight : α → ℤ) (allowed : α → Prop)

/-- `Selects weight allowed b items chosen`: with the budget `b`, the items that are chosen. -/
inductive Selects : ℤ → List α → List α → Prop
  | stop (b : ℤ) (items : List α) : Selects b items []
  | take {b : ℤ} {a : α} {items chosen : List α} (hallowed : allowed a) (hfits : weight a ≤ b)
      (h : Selects (b - weight a) items chosen) : Selects b (a :: items) (a :: chosen)
  | skip {b : ℤ} {a : α} {items chosen : List α} (hreason : ¬allowed a ∨ b < weight a)
      (h : Selects b items chosen) : Selects b (a :: items) chosen

namespace Selects

variable {weight allowed} {b : ℤ} {c : α} {items chosen before after : List α} {key : α → κ}

lemma sublist (h : Selects weight allowed b items chosen) : chosen.Sublist items := by
  induction h with
  | stop => exact List.nil_sublist _
  | take _ _ _ ih => exact ih.cons_cons _
  | skip _ _ ih => exact ih.cons _

lemma forall_allowed (h : Selects weight allowed b items chosen) : ∀ a ∈ chosen, allowed a := by
  induction h with
  | stop => exact fun a ha => absurd ha List.not_mem_nil
  | take hallowed _ _ ih => exact List.forall_mem_cons.mpr ⟨hallowed, ih⟩
  | skip _ _ ih => exact ih

/-- The budget is kept. -/
lemma sum_le (h : Selects weight allowed b items chosen) : (chosen.map weight).sum ≤ max b 0 := by
  induction h with
  | stop => simp
  | @take b a items chosen _ hfits _ ih =>
    rw [List.map_cons, List.sum_cons]
    rw [max_eq_left (sub_nonneg.mpr hfits)] at ih
    exact le_max_of_le_left (by omega)
  | skip _ _ ih => exact ih

/-- Where an item stands, the selection is divided: what is chosen before it, and the item itself
or a reason why it is skipped, or nothing more. -/
lemma divide (h : Selects weight allowed b (before ++ c :: after) chosen) :
    ∃ front back, chosen = front ++ back ∧ front.Sublist before ∧
      (back = [] ∨ (∃ rest, back = c :: rest ∧ rest.Sublist after) ∨
        back.Sublist after ∧ (¬allowed c ∨ b - (front.map weight).sum < weight c)) := by
  induction before generalizing b chosen with
  | nil =>
    refine ⟨[], chosen, rfl, .slnil, ?_⟩
    cases h with
    | stop => exact .inl rfl
    | take _ _ h => exact .inr (.inl ⟨_, rfl, h.sublist⟩)
    | skip hreason h => exact .inr (.inr ⟨h.sublist, by simpa using hreason⟩)
  | cons a before ih =>
    cases h with
    | stop => exact ⟨[], [], rfl, List.nil_sublist _, .inl rfl⟩
    | take _ _ h =>
      obtain ⟨front, back, rfl, hfront, hback⟩ := ih h
      refine ⟨a :: front, back, rfl, hfront.cons_cons a, ?_⟩
      rwa [List.map_cons, List.sum_cons, ← sub_sub]
    | skip _ h =>
      obtain ⟨front, back, rfl, hfront, hback⟩ := ih h
      exact ⟨front, back, rfl, hfront.cons a, hback⟩

/-- An item that is left out before a chosen one is not allowed, or it does not fit into the
budget that the items chosen before it leave. -/
theorem left_out (h : Selects weight allowed b (before ++ c :: after) chosen)
    (hkeys : ((before ++ c :: after).map key).Nodup) (hc : key c ∉ chosen.map key)
    (hlater : ∃ d ∈ after, key d ∈ chosen.map key) :
    ¬allowed c ∨
      b - ((before.filter fun x => key x ∈ chosen.map key).map weight).sum < weight c := by
  rw [List.map_append, List.nodup_append, List.map_cons, List.nodup_cons] at hkeys
  obtain ⟨hbefore, ⟨-, -⟩, hdisjoint⟩ := hkeys
  obtain ⟨front, back, rfl, hfront, hback⟩ := h.divide
  have hnotFront : ∀ x ∈ after, key x ∉ front.map key := by
    intro x hx hmem
    exact hdisjoint _ ((hfront.map key).subset hmem) _ (.tail _ (List.mem_map_of_mem hx)) rfl
  obtain rfl | ⟨rest, rfl, -⟩ | ⟨hback, hreason⟩ := hback
  · obtain ⟨d, hd, hmem⟩ := hlater
    rw [List.append_nil] at hmem
    exact absurd hmem (hnotFront d hd)
  · exact absurd (by simp) hc
  · have hfilter : before.filter (fun x => key x ∈ (front ++ back).map key) = front := by
      rw [← filter_of_sublist hfront hbefore]
      refine List.filter_congr fun x hx => ?_
      have hnotBack : key x ∉ back.map key := by
        intro hmem
        exact hdisjoint _ (List.mem_map_of_mem hx) _ (.tail _ ((hback.map key).subset hmem)) rfl
      rw [filter_of_sublist hfront hbefore, decide_eq_decide, List.map_append, List.mem_append]
      exact ⟨fun hmem => hmem.resolve_right hnotBack, .inl⟩
    rwa [hfilter]

end Selects

end Greedy
