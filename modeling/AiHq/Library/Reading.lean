import Mathlib

/-!
# Texts that can be read back

Words over a set of letters, words of a prefix code between quotes, and sequences with
separators: from a text that begins with one of them, what it is and where it ends is determined.
-/

namespace Reading

universe u v

variable {α : Type u} {σ : Type v}

/-- The text is empty or begins with a letter outside `p`. -/
def Stops (p : σ → Prop) (r : List σ) : Prop := ∀ c ∈ r.head?, ¬p c

variable {p : σ → Prop} {r s : List σ}

lemma stops_nil : Stops p ([] : List σ) := by
  intro c hc
  cases hc

lemma stops_cons {c : σ} (hc : ¬p c) : Stops p (c :: r) := by
  intro d hd
  obtain rfl : c = d := by simpa using hd
  exact hc

/-- A word ends where the letters of `p` end. -/
lemma word_inj {u v : List σ} (hu : ∀ c ∈ u, p c) (hv : ∀ c ∈ v, p c) (hr : Stops p r)
    (hs : Stops p s) (h : u ++ r = v ++ s) : u = v ∧ r = s := by
  induction u generalizing v with
  | nil =>
    cases v with
    | nil => exact ⟨rfl, h⟩
    | cons d v =>
      have hd : p d := hv d List.mem_cons_self
      rw [List.nil_append] at h
      exact absurd hd (hr d (by simp [h]))
  | cons c u ih =>
    cases v with
    | nil =>
      have hc : p c := hu c List.mem_cons_self
      rw [List.nil_append] at h
      exact absurd hc (hs c (by simp [← h]))
    | cons d v =>
      obtain ⟨rfl, htail⟩ := List.cons.inj h
      obtain ⟨rfl, hrs⟩ := ih (fun c hc => hu c (List.mem_cons_of_mem _ hc))
        (fun c hc => hv c (List.mem_cons_of_mem _ hc)) htail
      exact ⟨rfl, hrs⟩

/-- Words of two codes are told apart whatever follows them. -/
def PrefixCode (enc enc' : α → List σ) : Prop :=
  ∀ a b r s, enc a ++ r = enc' b ++ s → a = b ∧ r = s

/-- A sequence of code words ends at the first letter with which no code word begins. -/
lemma quoted_inj {enc enc' : α → List σ} {quote : σ} (henc : PrefixCode enc enc')
    (hquote : ∀ a r s, enc a ++ r ≠ quote :: s) (hquote' : ∀ a r s, enc' a ++ r ≠ quote :: s)
    {as bs : List α}
    (h : as.flatMap enc ++ quote :: r = bs.flatMap enc' ++ quote :: s) : as = bs ∧ r = s := by
  induction as generalizing bs with
  | nil =>
    cases bs with
    | nil => exact ⟨rfl, (List.cons.inj h).2⟩
    | cons b bs =>
      rw [List.flatMap_cons, List.append_assoc] at h
      exact absurd h.symm (hquote' b _ _)
  | cons a as ih =>
    cases bs with
    | nil =>
      rw [List.flatMap_cons, List.append_assoc] at h
      exact absurd h (hquote a _ _)
    | cons b bs =>
      rw [List.flatMap_cons, List.flatMap_cons, List.append_assoc, List.append_assoc] at h
      obtain ⟨rfl, htail⟩ := henc a b _ _ h
      obtain ⟨rfl, hrs⟩ := ih htail
      exact ⟨rfl, hrs⟩

/-! ### Sequences with separators -/

lemma intercalate_cons (sep : σ) (x : List σ) (xs : List (List σ)) :
    [sep].intercalate (x :: xs) = x ++ xs.flatMap fun y => sep :: y := by
  induction xs generalizing x with
  | nil => simp [List.intercalate]
  | cons y xs ih =>
    have hy : [sep].intercalate (x :: y :: xs) = x ++ sep :: [sep].intercalate (y :: xs) := by
      simp [List.intercalate]
    rw [hy, ih y, List.flatMap_cons, List.cons_append]

section Separated

variable {f g : α → List σ} {R : α → α → Prop} {sep close : σ}

/-- What follows the first item. -/
lemma items_inj (hsep : ¬p sep) (hclose : ¬p close) (hne : sep ≠ close) {xs ys : List α}
    (hread : ∀ x ∈ xs, ∀ y ∈ ys, ∀ r s, Stops p r → Stops p s → f x ++ r = g y ++ s →
      R x y ∧ r = s)
    (h : (xs.flatMap fun x => sep :: f x) ++ close :: r =
      (ys.flatMap fun y => sep :: g y) ++ close :: s) : List.Forall₂ R xs ys ∧ r = s := by
  have hstops : ∀ (f : α → List σ) (zs : List α) (t : List σ),
      Stops p ((zs.flatMap fun z => sep :: f z) ++ close :: t) := by
    intro f zs t
    cases zs with
    | nil => exact stops_cons hclose
    | cons z zs => exact stops_cons hsep
  induction xs generalizing ys with
  | nil =>
    cases ys with
    | nil => exact ⟨.nil, (List.cons.inj h).2⟩
    | cons y ys => exact absurd (List.cons.inj h).1.symm hne
  | cons x xs ih =>
    cases ys with
    | nil => exact absurd (List.cons.inj h).1 hne
    | cons y ys =>
      simp only [List.flatMap_cons, List.cons_append, List.append_assoc, List.cons.injEq,
        true_and] at h
      obtain ⟨hxy, h⟩ := hread x List.mem_cons_self y List.mem_cons_self _ _ (hstops f xs r)
        (hstops g ys s) h
      obtain ⟨hxys, hrs⟩ := ih
        (fun x hx y hy => hread x (List.mem_cons_of_mem _ hx) y (List.mem_cons_of_mem _ hy)) h
      exact ⟨.cons hxy hxys, hrs⟩

/-- A sequence of items that stop before the separator and before the closing letter, and do not
begin with the latter. -/
lemma separated_inj (hsep : ¬p sep) (hclose : ¬p close) (hne : sep ≠ close) {xs ys : List α}
    (hx : ∀ x ∈ xs, ∀ r s, f x ++ r ≠ close :: s) (hy : ∀ y ∈ ys, ∀ r s, g y ++ r ≠ close :: s)
    (hread : ∀ x ∈ xs, ∀ y ∈ ys, ∀ r s, Stops p r → Stops p s → f x ++ r = g y ++ s →
      R x y ∧ r = s)
    (h : [sep].intercalate (xs.map f) ++ close :: r = [sep].intercalate (ys.map g) ++ close :: s) :
    List.Forall₂ R xs ys ∧ r = s := by
  cases xs with
  | nil =>
    cases ys with
    | nil => exact ⟨.nil, (List.cons.inj h).2⟩
    | cons y ys =>
      rw [List.map_cons, intercalate_cons, List.append_assoc] at h
      exact absurd h.symm (hy y List.mem_cons_self _ _)
  | cons x xs =>
    cases ys with
    | nil =>
      rw [List.map_cons, intercalate_cons, List.append_assoc] at h
      exact absurd h (hx x List.mem_cons_self _ _)
    | cons y ys =>
      refine items_inj hsep hclose hne hread ?_
      have hsep' := congrArg (List.cons sep) h
      simpa only [List.map_cons, intercalate_cons, List.flatMap_map, List.flatMap_cons,
        List.cons_append] using hsep'

end Separated

end Reading
