import AiHq.Python.Serialization

/-!
# JSON with and without `ensure_ascii`

The two ways of writing JSON differ exactly in characters from `DEL` on.
-/

namespace AiHq

open Relational Reading

namespace Json

/-! ### Characters -/

/-- The characters before `DEL`. -/
def IsAscii (s : String) : Prop := ∀ c ∈ s.toList, c.toNat < 0x7f

instance : DecidablePred IsAscii := fun s => by
  unfold IsAscii
  infer_instance

lemma escapeUnicode_eq {c : Char} (h : c.toNat < 0x7f) : escapeUnicode c = escapeChar c := by
  have hall : ∀ n < 0x7f, escapeUnicode (Char.ofNat n) = escapeChar (Char.ofNat n) := by
    decide +kernel
  have hc := hall c.toNat h
  rwa [Char.ofNat_toNat] at hc

lemma length_escape_lt {c : Char} (h : 0x7f ≤ c.toNat) :
    (escapeUnicode c).length < (escapeChar c).length := by
  have hne {d : Char} (hd : d.toNat < 0x7f) : c ≠ d := fun heq => absurd (heq ▸ h) (not_le.mpr hd)
  have hunicode : escapeUnicode c = [c] := by
    have hlookup : shortEscapes.lookup c = none := by
      refine List.lookup_eq_none_iff.mpr fun field hfield => ?_
      have hshort : ∀ field ∈ shortEscapes, field.1.toNat < 0x7f := by decide
      exact bne_iff_ne.mpr (hne (hshort field hfield))
    rw [escapeUnicode, hlookup]
    exact if_neg (by omega)
  have hascii : 2 ≤ (escapeChar c).length := by
    unfold escapeChar
    rw [if_neg (hne (by decide)), if_neg (hne (by decide)), if_neg (hne (by decide)),
      if_neg (hne (by decide)), if_neg (hne (by decide)), if_neg (by omega), if_neg (by omega),
      if_neg (by simp; omega)]
    split_ifs <;> simp
  rw [hunicode]
  exact hascii

lemma length_escape_le (c : Char) : (escapeUnicode c).length ≤ (escapeChar c).length := by
  by_cases h : c.toNat < 0x7f
  · rw [escapeUnicode_eq h]
  · exact (length_escape_lt (not_lt.mp h)).le

/-! ### Texts -/

lemma quoteAs_eq {s : String} (h : IsAscii s) : quoteAs escapeUnicode s = quoteAs escapeChar s := by
  have hchars : s.toList.flatMap escapeUnicode = s.toList.flatMap escapeChar :=
    List.flatMap_congr fun c hc => escapeUnicode_eq (h c hc)
  rw [quoteAs, hchars, quoteAs]

lemma length_quoteAs_le (s : String) :
    (quoteAs escapeUnicode s).length ≤ (quoteAs escapeChar s).length := by
  simp only [quoteAs, List.length_cons, List.length_append, List.length_flatMap]
  exact Nat.add_le_add_right (Nat.add_le_add_right
    (List.sum_le_sum fun c _ => length_escape_le c) _) _

lemma length_quoteAs_lt {s : String} (h : ¬IsAscii s) :
    (quoteAs escapeUnicode s).length < (quoteAs escapeChar s).length := by
  simp only [quoteAs, List.length_cons, List.length_append, List.length_flatMap]
  refine Nat.add_lt_add_right (Nat.add_lt_add_right (List.sum_lt_sum _ _
    (fun c _ => length_escape_le c) ?_) _) _
  simp only [IsAscii, not_forall, not_lt] at h
  obtain ⟨c, hc, hlarge⟩ := h
  exact ⟨c, hc, length_escape_lt hlarge⟩

/-! ### Values -/

mutual
/-- The texts in a value, with the keys of its objects. -/
def texts : Json → List String
  | str s => [s]
  | list xs => textsList xs
  | obj fields => textsFields fields
  | _ => []

def textsList : List Json → List String
  | [] => []
  | x :: xs => texts x ++ textsList xs

def textsFields : List (String × Json) → List String
  | [] => []
  | (k, x) :: xs => k :: texts x ++ textsFields xs
end

lemma mem_textsList {xs : List Json} {s : String} :
    s ∈ textsList xs ↔ ∃ x ∈ xs, s ∈ texts x := by
  induction xs with
  | nil => simp [textsList]
  | cons x xs ih => simp [textsList, ih]

lemma mem_textsFields {fields : Dict} {s : String} :
    s ∈ textsFields fields ↔ ∃ field ∈ fields, s = field.1 ∨ s ∈ texts field.2 := by
  induction fields with
  | nil => simp [textsFields]
  | cons field fields ih => simp [textsFields, ih, or_assoc]

variable {escape : Char → List Char} {xs : List Json} {fields : Dict}

lemma length_intercalate (items : List (List Char)) :
    ([','].intercalate items).length = (items.map List.length).sum + (items.length - 1) := by
  cases items with
  | nil => rfl
  | cons item items =>
    rw [intercalate_cons, List.length_append, List.length_flatMap]
    have hsum : (items.map fun item => (',' :: item).length).sum =
        (items.map List.length).sum + items.length := by
      simp [List.sum_map_add]
    rw [hsum, List.map_cons, List.sum_cons, List.length_cons]
    omega

lemma length_dumpsAs_list : (dumpsAs escape (list xs)).length =
    (xs.map fun x => (dumpsAs escape x).length).sum + (xs.length - 1) + 2 := by
  rw [dumpsAs, dumpsAsList_eq]
  simp [length_intercalate, Function.comp_def]

/-- A member of an object. -/
def memberAs (escape : Char → List Char) (field : String × Json) : List Char :=
  quoteAs escape field.1 ++ ':' :: dumpsAs escape field.2

lemma dumpsAs_obj : dumpsAs escape (obj fields) =
    '\x7b' :: ([','].intercalate ((orderBy Prod.fst fields).map (memberAs escape)) ++ ['\x7d']) := by
  rw [dumpsAs, orderBy_dumpsAsFields, List.map_map]
  rfl

lemma length_dumpsAs_obj : (dumpsAs escape (obj fields)).length =
    (fields.map fun field => (memberAs escape field).length).sum + (fields.length - 1) + 2 := by
  have hperm := perm_orderBy (Prod.fst : String × Json → String) fields
  rw [← (hperm.map fun field => (memberAs escape field).length).sum_eq, ← hperm.length_eq,
    dumpsAs_obj]
  simp [length_intercalate, Function.comp_def]

lemma length_memberAs (field : String × Json) : (memberAs escape field).length =
    (quoteAs escape field.1).length + (dumpsAs escape field.2).length + 1 := by
  simp [memberAs, Nat.add_assoc]

/-- Where all texts are ASCII, the two ways are the same. -/
lemma dumpsAs_eq_of_ascii {x : Json} (h : ∀ s ∈ texts x, IsAscii s) :
    dumpsAs escapeUnicode x = dumpsAs escapeChar x := by
  induction x using inductionOn with
  | null | bool | int | float => rfl
  | str s => exact quoteAs_eq (h s List.mem_cons_self)
  | list xs ih =>
    rw [dumpsAs, dumpsAs, dumpsAsList_eq, dumpsAsList_eq]
    have hitems : xs.map (dumpsAs escapeUnicode) = xs.map (dumpsAs escapeChar) :=
      List.map_congr_left fun x hx => ih x hx fun s hs => h s (mem_textsList.mpr ⟨x, hx, hs⟩)
    rw [hitems]
  | obj fields ih =>
    have hmembers : (orderBy Prod.fst fields).map (memberAs escapeUnicode) =
        (orderBy Prod.fst fields).map (memberAs escapeChar) := by
      refine List.map_congr_left fun field hfield => ?_
      have hmem := mem_orderBy.mp hfield
      rw [memberAs, quoteAs_eq (h _ (mem_textsFields.mpr ⟨field, hmem, .inl rfl⟩)),
        ih field hmem fun s hs => h s (mem_textsFields.mpr ⟨field, hmem, .inr hs⟩), memberAs]
    rw [dumpsAs_obj, dumpsAs_obj, hmembers]

lemma length_dumpsAs_le (x : Json) :
    (dumpsAs escapeUnicode x).length ≤ (dumpsAs escapeChar x).length := by
  induction x using inductionOn with
  | null | bool | int | float => exact le_rfl
  | str s => exact length_quoteAs_le s
  | list xs ih =>
    rw [length_dumpsAs_list, length_dumpsAs_list]
    have hsum := List.sum_le_sum ih
    omega
  | obj fields ih =>
    rw [length_dumpsAs_obj, length_dumpsAs_obj]
    have hmember (field : String × Json) (hfield : field ∈ fields) :
        (memberAs escapeUnicode field).length ≤ (memberAs escapeChar field).length := by
      rw [length_memberAs, length_memberAs]
      exact Nat.add_le_add_right (Nat.add_le_add (length_quoteAs_le _) (ih field hfield)) 1
    have hsum := List.sum_le_sum hmember
    omega

/-- Where a text is not ASCII, the texts do not even have the same length. -/
lemma length_dumpsAs_lt {x : Json} {s : String} (hs : s ∈ texts x) (hascii : ¬IsAscii s) :
    (dumpsAs escapeUnicode x).length < (dumpsAs escapeChar x).length := by
  induction x using inductionOn with
  | null | bool | int | float => cases hs
  | str s' =>
    obtain rfl := List.mem_singleton.mp hs
    exact length_quoteAs_lt hascii
  | list xs ih =>
    obtain ⟨x, hx, hs⟩ := mem_textsList.mp hs
    have hsum := List.sum_lt_sum _ _ (fun x _ => length_dumpsAs_le x) ⟨x, hx, ih x hx hs⟩
    rw [length_dumpsAs_list, length_dumpsAs_list]
    omega
  | obj fields ih =>
    obtain ⟨field, hfield, hs⟩ := mem_textsFields.mp hs
    have hle (field : String × Json) :
        (memberAs escapeUnicode field).length ≤ (memberAs escapeChar field).length := by
      rw [length_memberAs, length_memberAs]
      exact Nat.add_le_add_right (Nat.add_le_add (length_quoteAs_le _) (length_dumpsAs_le _)) 1
    have hlt : (memberAs escapeUnicode field).length < (memberAs escapeChar field).length := by
      rw [length_memberAs, length_memberAs]
      refine Nat.add_lt_add_right ?_ 1
      rcases hs with rfl | hs
      · exact Nat.add_lt_add_of_lt_of_le (length_quoteAs_lt hascii) (length_dumpsAs_le _)
      · exact Nat.add_lt_add_of_le_of_lt (length_quoteAs_le _) (ih field hfield hs)
    have hsum := List.sum_lt_sum _ _ (fun field _ => hle field) ⟨field, hfield, hlt⟩
    rw [length_dumpsAs_obj, length_dumpsAs_obj]
    omega

/-- The two ways of writing a value are the same exactly if all texts in it are ASCII. -/
theorem dumpsAs_eq_iff {x : Json} : dumpsAs escapeUnicode x = dumps x ↔
    ∀ s ∈ texts x, IsAscii s := by
  rw [← dumpsAs_escapeChar]
  refine ⟨fun h s hs => by_contra fun hascii => ?_, dumpsAs_eq_of_ascii⟩
  exact (length_dumpsAs_lt hs hascii).ne (congrArg List.length h)

end Json
end AiHq
