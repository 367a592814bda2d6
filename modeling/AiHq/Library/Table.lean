import Mathlib

/-!
# Keyed tables

A table is a list of rows no two of which have the same key; the key is a field of the row.
Rows are looked up, inserted and replaced by their key, and listed in the order of a column.
-/

namespace Relational

universe u v w

/-- The primary key of a row. -/
class Keyed (R : Type u) (K : outParam (Type v)) where
  key : R → K

export Keyed (key)

/-- Rows with pairwise distinct keys, in the order in which they happen to be stored. -/
structure Table (R : Type u) {K : Type v} [Keyed R K] where
  rows : List R
  nodup : (rows.map key).Nodup

namespace Table

variable {R : Type u} {K : Type v} [Keyed R K] [DecidableEq K]

def empty : Table R := ⟨[], List.nodup_nil⟩

instance : EmptyCollection (Table R) := ⟨empty⟩

def get? (t : Table R) (k : K) : Option R := t.rows.find? fun r => key r = k

/-- Insert a row; its key must be new. -/
def insert? (t : Table R) (r : R) : Option (Table R) :=
  if h : key r ∈ t.rows.map key then none
  else some ⟨t.rows ++ [r], by
    rw [List.map_append, List.map_singleton]
    exact List.Nodup.append t.nodup (List.nodup_singleton _) (by simpa using h)⟩

def insertAll? (t : Table R) : List R → Option (Table R)
  | [] => some t
  | r :: rs => (t.insert? r).bind (insertAll? · rs)

lemma map_key_replace (t : Table R) (r : R) :
    (t.rows.map fun r' => if key r' = key r then r else r').map key = t.rows.map key := by
  rw [List.map_map]
  refine List.map_congr_left fun r' _ => ?_
  simp only [Function.comp_apply]
  split_ifs with h
  · exact h.symm
  · rfl

/-- Replace the row that has the key of `r`, if there is one. -/
def set (t : Table R) (r : R) : Table R where
  rows := t.rows.map fun r' => if key r' = key r then r else r'
  nodup := by
    rw [map_key_replace]
    exact t.nodup

lemma map_key_set (t : Table R) (r : R) : (t.set r).rows.map key = t.rows.map key :=
  map_key_replace t r

variable {t t' : Table R} {r r' : R} {k : K}

omit [DecidableEq K] in
lemma eq_of_key_eq (hr : r ∈ t.rows) (hr' : r' ∈ t.rows) (hk : key r = key r') : r = r' :=
  List.inj_on_of_nodup_map t.nodup hr hr' hk

lemma get?_eq_some : t.get? k = some r ↔ r ∈ t.rows ∧ key r = k := by
  constructor
  · intro h
    exact ⟨List.mem_of_find?_eq_some h, by simpa using List.find?_some h⟩
  · rintro ⟨hmem, rfl⟩
    cases hf : t.get? (key r) with
    | none =>
      have := List.find?_eq_none.mp hf r hmem
      simp at this
    | some r' =>
      have hkey : key r' = key r := by simpa using List.find?_some hf
      rw [eq_of_key_eq (List.mem_of_find?_eq_some hf) hmem hkey]

lemma mem_of_get? (h : t.get? k = some r) : r ∈ t.rows := (get?_eq_some.mp h).1

lemma key_of_get? (h : t.get? k = some r) : key r = k := (get?_eq_some.mp h).2

lemma get?_of_mem (h : r ∈ t.rows) : t.get? (key r) = some r := get?_eq_some.mpr ⟨h, rfl⟩

lemma mem_set : r' ∈ (t.set r).rows ↔
    (r' = r ∧ ∃ x ∈ t.rows, key x = key r) ∨ (r' ∈ t.rows ∧ key r' ≠ key r) := by
  simp only [set, List.mem_map]
  constructor
  · rintro ⟨x, hx, rfl⟩
    split_ifs with h
    · exact .inl ⟨rfl, x, hx, h⟩
    · exact .inr ⟨hx, h⟩
  · rintro (⟨rfl, x, hx, h⟩ | ⟨hx, h⟩)
    · exact ⟨x, hx, if_pos h⟩
    · exact ⟨r', hx, if_neg h⟩

lemma get?_set_self (h : t.get? (key r) = some r') : (t.set r).get? (key r) = some r :=
  get?_eq_some.mpr
    ⟨mem_set.mpr (.inl ⟨rfl, r', mem_of_get? h, key_of_get? h⟩), rfl⟩

lemma get?_set_ne (h : k ≠ key r) : (t.set r).get? k = t.get? k := by
  refine Option.ext fun x => ?_
  rw [get?_eq_some, get?_eq_some, mem_set]
  constructor
  · rintro ⟨⟨rfl, _⟩ | ⟨hx, _⟩, rfl⟩
    · exact absurd rfl h
    · exact ⟨hx, rfl⟩
  · rintro ⟨hx, rfl⟩
    exact ⟨.inr ⟨hx, h⟩, rfl⟩

/-- A row of the table after `set` is the new row or an old one. -/
lemma get?_set (h : (t.set r).get? k = some r') :
    r' = r ∧ k = key r ∨ t.get? k = some r' ∧ k ≠ key r := by
  by_cases hk : k = key r
  · obtain ⟨hmem, hkey⟩ := get?_eq_some.mp h
    rcases mem_set.mp hmem with ⟨rfl, _⟩ | ⟨_, hne⟩
    · exact .inl ⟨rfl, hk⟩
    · exact absurd (hkey.trans hk) hne
  · rw [get?_set_ne hk] at h
    exact .inr ⟨h, hk⟩

lemma insert?_eq_some (h : t.insert? r = some t') :
    t.get? (key r) = none ∧ t'.rows = t.rows ++ [r] := by
  unfold insert? at h
  split_ifs at h with hk
  obtain rfl := Option.some.inj h
  refine ⟨List.find?_eq_none.mpr fun x hx => ?_, rfl⟩
  simp only [decide_eq_true_eq]
  rintro hx'
  exact hk (List.mem_map.mpr ⟨x, hx, hx'⟩)

lemma exists_insert? (h : t.get? (key r) = none) : ∃ t', t.insert? r = some t' := by
  have hnew : key r ∉ t.rows.map key := by
    intro hk
    obtain ⟨x, hx, hxk⟩ := List.mem_map.mp hk
    exact absurd (get?_of_mem hx) (by simp [hxk, h])
  exact ⟨_, dif_neg hnew⟩

/-- An insertion that is refused has met a row of the same key. -/
lemma get?_ne_none_of_insert? (h : t.insert? r = none) : t.get? (key r) ≠ none := by
  intro hnone
  obtain ⟨t', ht'⟩ := exists_insert? hnone
  rw [h] at ht'
  cases ht'

lemma get?_insert?_self (h : t.insert? r = some t') : t'.get? (key r) = some r := by
  refine get?_eq_some.mpr ⟨?_, rfl⟩
  rw [(insert?_eq_some h).2]
  exact List.mem_append.mpr (.inr (List.mem_singleton.mpr rfl))

lemma get?_insert?_ne (h : t.insert? r = some t') (hk : k ≠ key r) : t'.get? k = t.get? k := by
  refine Option.ext fun x => ?_
  rw [get?_eq_some, get?_eq_some, (insert?_eq_some h).2, List.mem_append, List.mem_singleton]
  constructor
  · rintro ⟨hx | rfl, rfl⟩
    · exact ⟨hx, rfl⟩
    · exact absurd rfl hk
  · rintro ⟨hx, rfl⟩
    exact ⟨.inl hx, rfl⟩

/-- Insertion keeps the rows that were there. -/
lemma get?_insert?_of_some (h : t.insert? r = some t') (hk : t.get? k = some r') :
    t'.get? k = some r' := by
  refine get?_eq_some.mpr ⟨?_, key_of_get? hk⟩
  rw [(insert?_eq_some h).2]
  exact List.mem_append.mpr (.inl (mem_of_get? hk))

lemma insertAll?_rows {rs : List R} (h : t.insertAll? rs = some t') :
    t'.rows = t.rows ++ rs := by
  induction rs generalizing t with
  | nil =>
    obtain rfl := Option.some.inj h
    simp
  | cons r rs ih =>
    obtain ⟨t₁, h₁, h₂⟩ := Option.bind_eq_some_iff.mp h
    rw [ih h₂, (insert?_eq_some h₁).2, List.append_assoc, List.singleton_append]

/-- The table without the row that has the key `k`. -/
def erase (t : Table R) (k : K) : Table R where
  rows := t.rows.filter fun r => key r ≠ k
  nodup := (t.nodup.sublist ((List.filter_sublist).map key))

lemma mem_erase : r ∈ (t.erase k).rows ↔ r ∈ t.rows ∧ key r ≠ k := by
  simp [erase]

lemma get?_erase {k' : K} : (t.erase k).get? k' = if k' = k then none else t.get? k' := by
  refine Option.ext fun r => ?_
  split_ifs with hk
  · subst hk
    simp [get?_eq_some, mem_erase]
  · rw [get?_eq_some, get?_eq_some, mem_erase]
    constructor
    · rintro ⟨⟨hr, -⟩, hkey⟩
      exact ⟨hr, hkey⟩
    · rintro ⟨hr, rfl⟩
      exact ⟨⟨hr, hk⟩, rfl⟩

/-- Replace the row that has the key of `r`, or insert it. -/
def put (t : Table R) (r : R) : Table R where
  rows := (t.erase (key r)).rows ++ [r]
  nodup := by
    rw [List.map_append, List.map_singleton]
    refine List.Nodup.append (t.erase (key r)).nodup (List.nodup_singleton _) ?_
    rw [List.disjoint_singleton]
    rintro hmem
    obtain ⟨r', hr', hk⟩ := List.mem_map.mp hmem
    exact (mem_erase.mp hr').2 hk

lemma mem_put : r' ∈ (t.put r).rows ↔ (r' ∈ t.rows ∧ key r' ≠ key r) ∨ r' = r := by
  rw [put, List.mem_append, List.mem_singleton, mem_erase]

lemma get?_put : (t.put r).get? k = if k = key r then some r else t.get? k := by
  refine Option.ext fun r' => ?_
  rw [get?_eq_some, mem_put]
  split_ifs with hk
  · subst hk
    constructor
    · rintro ⟨⟨-, hne⟩ | rfl, hkey⟩
      · exact absurd hkey hne
      · rfl
    · intro h
      obtain rfl := Option.some.inj h
      exact ⟨.inr rfl, rfl⟩
  · rw [get?_eq_some]
    constructor
    · rintro ⟨⟨hr', -⟩ | rfl, hkey⟩
      · exact ⟨hr', hkey⟩
      · exact absurd hkey.symm hk
    · rintro ⟨hr', rfl⟩
      exact ⟨.inl ⟨hr', hk⟩, rfl⟩

/-! ### Rows that stay -/

/-- Every row is still there, as one that `F` allows; others may have come. -/
def Keeps (F : R → R → Prop) (t t' : Table R) : Prop :=
  ∀ k r, t.get? k = some r → ∃ r', t'.get? k = some r' ∧ F r r'

section Keeps

variable {F : R → R → Prop} {t₁ t₂ t₃ : Table R}

lemma Keeps.refl (hF : ∀ r, F r r) (t : Table R) : Keeps F t t := fun _ r hr => ⟨r, hr, hF r⟩

lemma Keeps.trans (hF : ∀ r₁ r₂ r₃, F r₁ r₂ → F r₂ r₃ → F r₁ r₃) (h : Keeps F t₁ t₂)
    (h' : Keeps F t₂ t₃) : Keeps F t₁ t₃ := by
  intro k r hr
  obtain ⟨r', hr', hFr⟩ := h k r hr
  obtain ⟨r'', hr'', hFr'⟩ := h' k r' hr'
  exact ⟨r'', hr'', hF r r' r'' hFr hFr'⟩

lemma keeps_insert? (hF : ∀ r, F r r) (h : t.insert? r = some t') : Keeps F t t' :=
  fun _ r' hr' => ⟨r', get?_insert?_of_some h hr', hF r'⟩

/-- Replacing a row keeps the rows if it is replaced by one that `F` allows. -/
lemma keeps_set_iff (hF : ∀ r, F r r) (hr : t.get? (key r) = some r') :
    Keeps F t (t.set r) ↔ F r' r := by
  constructor
  · intro h
    obtain ⟨r'', hr'', hFr⟩ := h _ _ hr
    rw [get?_set_self hr] at hr''
    obtain rfl := Option.some.inj hr''
    exact hFr
  · intro hFr k x hx
    by_cases hk : k = key r
    · subst hk
      obtain rfl := Option.some.inj (hr.symm.trans hx)
      exact ⟨r, get?_set_self hr, hFr⟩
    · exact ⟨x, (get?_set_ne hk).trans hx, hF x⟩

end Keeps

/-! ### Evolution row by row -/

/-- No row has come or gone, and each has become one that `F` allows. -/
structure Evolves (F : R → R → Prop) (t t' : Table R) : Prop where
  keys : t'.rows.map key = t.rows.map key
  rows : ∀ r ∈ t.rows, ∀ r' ∈ t'.rows, key r' = key r → F r r'

/-- The keys of the rows that `P` counts. -/
def counted (t : Table R) (P : R → Bool) : Finset K := ((t.rows.filter P).map key).toFinset

section Evolves

variable {F : R → R → Prop} {t₁ t₂ t₃ : Table R} {P : R → Bool}

omit [DecidableEq K] in
lemma exists_of_keys (hkeys : t'.rows.map key = t.rows.map key) (hr : r ∈ t.rows) :
    ∃ r' ∈ t'.rows, key r' = key r := by
  have hmem : key r ∈ t'.rows.map key := by
    rw [hkeys]
    exact List.mem_map_of_mem hr
  exact List.mem_map.mp hmem

omit [DecidableEq K] in
lemma Evolves.refl (hF : ∀ r, F r r) (t : Table R) : Evolves F t t := by
  refine ⟨rfl, fun r hr r' hr' hk => ?_⟩
  rw [eq_of_key_eq hr' hr hk]
  exact hF r

omit [DecidableEq K] in
lemma Evolves.trans (hF : ∀ r₁ r₂ r₃, F r₁ r₂ → F r₂ r₃ → F r₁ r₃) (h : Evolves F t₁ t₂)
    (h' : Evolves F t₂ t₃) : Evolves F t₁ t₃ := by
  refine ⟨h'.keys.trans h.keys, fun r hr r' hr' hk => ?_⟩
  obtain ⟨r₂, hr₂, hk₂⟩ := exists_of_keys h.keys hr
  exact hF r r₂ r' (h.rows r hr r₂ hr₂ hk₂) (h'.rows r₂ hr₂ r' hr' (hk.trans hk₂.symm))

/-- Replacing a row by one that `F` allows. -/
lemma evolves_set (hF : ∀ r, F r r) (hr : t.get? (key r) = some r') (hr' : F r' r) :
    Evolves F t (t.set r) := by
  refine ⟨map_key_set t r, fun x hx x' hx' hk => ?_⟩
  rcases mem_set.mp hx' with ⟨rfl, -⟩ | ⟨hx', -⟩
  · obtain rfl := eq_of_key_eq hx (mem_of_get? hr) (hk.symm.trans (key_of_get? hr).symm)
    exact hr'
  · rw [eq_of_key_eq hx' hx hk]
    exact hF x

lemma Evolves.get? {k : K} (h : Evolves F t t') (hr : t.get? k = some r) :
    ∃ r', t'.get? k = some r' ∧ F r r' := by
  obtain ⟨hmem, rfl⟩ := get?_eq_some.mp hr
  obtain ⟨r', hr', hk⟩ := exists_of_keys h.keys hmem
  exact ⟨r', get?_eq_some.mpr ⟨hr', hk⟩, h.rows r hmem r' hr' hk⟩

lemma mem_counted {k : K} : k ∈ t.counted P ↔ ∃ r, t.get? k = some r ∧ P r = true := by
  simp only [counted, List.mem_toFinset, List.mem_map, List.mem_filter, get?_eq_some]
  constructor
  · rintro ⟨r, ⟨hr, hP⟩, hk⟩
    exact ⟨r, ⟨hr, hk⟩, hP⟩
  · rintro ⟨r, ⟨hr, hk⟩, hP⟩
    exact ⟨r, ⟨hr, hP⟩, hk⟩

/-- If no row comes to be counted, the counted keys do not grow. -/
lemma Evolves.counted_subset (h : Evolves F t t')
    (hP : ∀ r r', F r r' → P r' = true → P r = true) : t'.counted P ⊆ t.counted P := by
  intro k hk
  obtain ⟨r', hr', hPr'⟩ := mem_counted.mp hk
  obtain ⟨r, hr, hkr⟩ := exists_of_keys h.keys.symm (mem_of_get? hr')
  have hF := h.rows r hr r' (mem_of_get? hr') hkr.symm
  exact mem_counted.mpr ⟨r, get?_eq_some.mpr ⟨hr, hkr.trans (key_of_get? hr')⟩, hP r r' hF hPr'⟩

end Evolves

end Table

/-! ### Ordered selections -/

section Order

variable {R : Type u} {κ : Type w} [LinearOrder κ]

/-- The rows in ascending order of a column. -/
def orderBy (col : R → κ) (rows : List R) : List R :=
  rows.insertionSort fun a b => col a ≤ col b

/-- The first row in ascending order of a column. -/
def firstBy (col : R → κ) (rows : List R) : Option R := (orderBy col rows).head?

variable {col : R → κ} {rows : List R} {r : R}

local instance totalCol : Std.Total (fun a b : R => col a ≤ col b) :=
  ⟨fun a b => le_total (col a) (col b)⟩

local instance isTransCol : IsTrans R (fun a b : R => col a ≤ col b) := ⟨fun _ _ _ => le_trans⟩

@[simp] lemma mem_orderBy : r ∈ orderBy col rows ↔ r ∈ rows :=
  List.mem_insertionSort _

lemma perm_orderBy (col : R → κ) (rows : List R) : (orderBy col rows).Perm rows :=
  List.perm_insertionSort _ rows

lemma pairwise_orderBy (col : R → κ) (rows : List R) :
    (orderBy col rows).Pairwise fun a b => col a ≤ col b :=
  List.pairwise_insertionSort _ rows

@[simp] lemma orderBy_orderBy : orderBy col (orderBy col rows) = orderBy col rows :=
  (pairwise_orderBy col rows).insertionSort_eq

/-- Where no two rows have the same value in the column, their order is determined. -/
lemma orderBy_eq_of_perm {rows' : List R} (hperm : rows.Perm rows') (hcol : (rows.map col).Nodup) :
    orderBy col rows = orderBy col rows' := by
  have hperm' : (orderBy col rows).Perm (orderBy col rows') :=
    ((perm_orderBy col rows).trans hperm).trans (perm_orderBy col rows').symm
  refine hperm'.eq_of_pairwise (fun a b ha hb hab hba => ?_) (pairwise_orderBy col rows)
    (pairwise_orderBy col rows')
  exact List.inj_on_of_nodup_map hcol (mem_orderBy.mp ha)
    (hperm.mem_iff.mpr (mem_orderBy.mp hb)) (le_antisymm hab hba)

/-- Ordering a list of images by what is the column of the rows. -/
lemma orderBy_map {S : Type u} {col' : S → κ} (f : R → S) (hf : ∀ r ∈ rows, col' (f r) = col r) :
    orderBy col' (rows.map f) = (orderBy col rows).map f := by
  refine (List.map_insertionSort _ _ f rows fun a ha b hb => ?_).symm
  rw [hf a ha, hf b hb]

lemma mem_of_firstBy (h : firstBy col rows = some r) : r ∈ rows :=
  mem_orderBy.mp (List.mem_of_mem_head? h)

lemma firstBy_le (h : firstBy col rows = some r) : ∀ r' ∈ rows, col r ≤ col r' := by
  intro r' hr'
  have hsorted := pairwise_orderBy col rows
  have hmem : r' ∈ orderBy col rows := mem_orderBy.mpr hr'
  unfold firstBy at h
  cases hl : orderBy col rows with
  | nil => simp [hl] at h
  | cons a l =>
    rw [hl] at h hsorted hmem
    obtain rfl : a = r := by simpa using h
    rcases List.mem_cons.mp hmem with rfl | hmem
    · exact le_refl _
    · exact (List.pairwise_cons.mp hsorted).1 r' hmem

lemma firstBy_eq_none : firstBy col rows = none ↔ rows = [] := by
  rw [firstBy, List.head?_eq_none_iff, ← List.length_eq_zero_iff, ← List.length_eq_zero_iff,
    orderBy, List.length_insertionSort]

end Order

end Relational
