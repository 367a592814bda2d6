import AiHq.Python.Values
import AiHq.Library.Reading

/-!
# Canonical JSON

`json.dumps(value, sort_keys=True, separators=(",", ":"))`, with and without `ensure_ascii`, and
that its text determines the value up to the order of the keys.
-/

namespace AiHq

open Relational Reading

/-! ### Escapes -/

/-- The characters that JSON escapes by a letter, with the letter. -/
def shortEscapes : List (Char × Char) :=
  [('"', '"'), ('\\', '\\'), ('\n', 'n'), ('\r', 'r'), ('\t', 't'), (Char.ofNat 0x08, 'b'),
    (Char.ofNat 0x0c, 'f')]

namespace Json

/-- One character inside a JSON string, as `json.dumps` writes it with `ensure_ascii=False`. -/
def escapeUnicode (c : Char) : List Char :=
  match shortEscapes.lookup c with
  | some letter => ['\\', letter]
  | none => if c.toNat < 0x20 then '\\' :: 'u' :: hexDigits 4 c.toNat else [c]

/-- The ways to write a character inside a JSON string. -/
inductive Escaped : Char → List Char → Prop where
  | plain {c : Char} (hquote : c ≠ '"') (hback : c ≠ '\\') : Escaped c [c]
  | short {c letter : Char} (h : (c, letter) ∈ shortEscapes) : Escaped c ['\\', letter]
  | unit {c : Char} (h : c.toNat < 0x10000) : Escaped c ('\\' :: 'u' :: hexDigits 4 c.toNat)
  | pair {c : Char} (h : 0x10000 ≤ c.toNat) : Escaped c
      ('\\' :: 'u' :: hexDigits 4 (0xd800 + (c.toNat - 0x10000) / 0x400) ++
        '\\' :: 'u' :: hexDigits 4 (0xdc00 + (c.toNat - 0x10000) % 0x400))

lemma escaped_escapeChar (c : Char) : Escaped c (escapeChar c) := by
  unfold escapeChar
  split_ifs with h₁ h₂ h₃ h₄ h₅ h₆ h₇ h₈ h₉
  · subst h₁
    exact .short (by decide)
  · subst h₂
    exact .short (by decide)
  · subst h₃
    exact .short (by decide)
  · subst h₄
    exact .short (by decide)
  · subst h₅
    exact .short (by decide)
  · obtain rfl : c = Char.ofNat 0x08 := Char.toNat_inj.mp h₆
    exact .short (by decide)
  · obtain rfl : c = Char.ofNat 0x0c := Char.toNat_inj.mp h₇
    exact .short (by decide)
  · exact .plain h₁ h₂
  · exact .unit h₉
  · exact .pair (Nat.le_of_not_lt h₉)

lemma escaped_escapeUnicode (c : Char) : Escaped c (escapeUnicode c) := by
  unfold escapeUnicode
  split
  · next letter h =>
    obtain ⟨l₁, l₂, heq, -⟩ := List.lookup_eq_some_iff.mp h
    exact .short (heq ▸ List.mem_append_right l₁ List.mem_cons_self)
  · next h =>
    split_ifs with hc
    · exact .unit (by omega)
    · refine .plain ?_ ?_
      · rintro rfl
        cases h
      · rintro rfl
        cases h

lemma length_hexDigits (width n : ℕ) : (hexDigits width n).length = width := by
  induction width generalizing n with
  | zero => rfl
  | succ width ih => rw [hexDigits, List.length_append, ih, List.length_singleton]

lemma digitChar_inj {m n : ℕ} (hm : m < 16) (hn : n < 16) (h : m.digitChar = n.digitChar) :
    m = n := by
  have hall : ∀ m n : Fin 16, m.val.digitChar = n.val.digitChar → m = n := by decide
  exact Fin.mk.inj (hall ⟨m, hm⟩ ⟨n, hn⟩ h)

/-- Hexadecimal digits determine the number below the bound of their width. -/
lemma hexDigits_inj {width m n : ℕ} (hm : m < 16 ^ width) (hn : n < 16 ^ width)
    (h : hexDigits width m = hexDigits width n) : m = n := by
  induction width generalizing m n with
  | zero => omega
  | succ width ih =>
    have hlen : (hexDigits width (m / 16)).length = (hexDigits width (n / 16)).length := by
      rw [length_hexDigits, length_hexDigits]
    obtain ⟨hhigh, hlow⟩ := List.append_inj h hlen
    have hdiv : m / 16 = n / 16 := ih (by omega) (by omega) hhigh
    have hmod : m % 16 = n % 16 :=
      digitChar_inj (Nat.mod_lt _ (by decide)) (Nat.mod_lt _ (by decide)) (List.cons.inj hlow).1
    omega

lemma hexDigits_append_inj {m n : ℕ} {r s : List Char} (hm : m < 0x10000) (hn : n < 0x10000)
    (h : hexDigits 4 m ++ r = hexDigits 4 n ++ s) : m = n ∧ r = s := by
  have hlen : (hexDigits 4 m).length = (hexDigits 4 n).length := by
    rw [length_hexDigits, length_hexDigits]
  obtain ⟨hhex, hrs⟩ := List.append_inj h hlen
  exact ⟨hexDigits_inj hm hn hhex, hrs⟩

/-- The halves of a surrogate pair are no characters. -/
lemma toNat_not_surrogate (c : Char) : c.toNat < 0xd800 ∨ 0xe000 ≤ c.toNat := by
  rcases c.valid with h | h
  · exact .inl h
  · exact .inr (Nat.succ_le_of_lt h.1)

lemma toNat_le (c : Char) : c.toNat < 0x110000 := by
  rcases c.valid with h | h
  · exact lt_trans h (by decide)
  · exact h.2

lemma shortEscapes_inj {c d letter : Char} (hc : (c, letter) ∈ shortEscapes)
    (hd : (d, letter) ∈ shortEscapes) : c = d := by
  have hnodup : (shortEscapes.map Prod.snd).Nodup := by decide
  exact (Prod.mk.inj (List.inj_on_of_nodup_map hnodup hc hd rfl)).1

/-- The letter `u` is kept for the escapes by number. -/
lemma not_mem_shortEscapes {c : Char} : (c, 'u') ∉ shortEscapes := by
  intro hc
  have hmem : 'u' ∈ shortEscapes.map Prod.snd := List.mem_map_of_mem hc
  revert hmem
  decide

/-- However two characters are written, they and what follows them can be told apart. -/
lemma Escaped.inj {c d : Char} {u v r s : List Char} (hc : Escaped c u) (hd : Escaped d v)
    (h : u ++ r = v ++ s) : c = d ∧ r = s := by
  cases hc with
  | plain hquote hback =>
    cases hd with
    | plain =>
      obtain ⟨rfl, hrs⟩ := List.cons.inj h
      exact ⟨rfl, hrs⟩
    | short | unit | pair => exact absurd (List.cons.inj h).1 hback
  | short hmem =>
    cases hd with
    | plain _ hback => exact absurd (List.cons.inj h).1.symm hback
    | short hmem' =>
      obtain ⟨-, h⟩ := List.cons.inj h
      obtain ⟨rfl, hrs⟩ := List.cons.inj h
      exact ⟨shortEscapes_inj hmem hmem', hrs⟩
    | unit | pair =>
      obtain ⟨-, h⟩ := List.cons.inj h
      exact absurd ((List.cons.inj h).1 ▸ hmem) not_mem_shortEscapes
  | unit hlt =>
    cases hd with
    | plain _ hback => exact absurd (List.cons.inj h).1.symm hback
    | short hmem =>
      obtain ⟨-, h⟩ := List.cons.inj h
      exact absurd ((List.cons.inj h).1 ▸ hmem) not_mem_shortEscapes
    | unit hlt' =>
      obtain ⟨hcd, hrs⟩ := hexDigits_append_inj hlt hlt' (List.cons.inj (List.cons.inj h).2).2
      exact ⟨Char.toNat_inj.mp hcd, hrs⟩
    | pair hge =>
      rw [List.append_assoc] at h
      have := toNat_le d
      obtain ⟨hcd, -⟩ := hexDigits_append_inj hlt (by omega) (List.cons.inj (List.cons.inj h).2).2
      have := toNat_not_surrogate c
      omega
  | pair hge =>
    have hcmax := toNat_le c
    rw [List.append_assoc] at h
    cases hd with
    | plain _ hback => exact absurd (List.cons.inj h).1.symm hback
    | short hmem =>
      obtain ⟨-, h⟩ := List.cons.inj h
      exact absurd ((List.cons.inj h).1 ▸ hmem) not_mem_shortEscapes
    | unit hlt =>
      obtain ⟨hcd, -⟩ := hexDigits_append_inj (by omega) hlt (List.cons.inj (List.cons.inj h).2).2
      have := toNat_not_surrogate d
      omega
    | pair hge' =>
      have hdmax := toNat_le d
      rw [List.append_assoc] at h
      obtain ⟨hhigh, h⟩ :=
        hexDigits_append_inj (by omega) (by omega) (List.cons.inj (List.cons.inj h).2).2
      obtain ⟨hlow, hrs⟩ :=
        hexDigits_append_inj (by omega) (by omega) (List.cons.inj (List.cons.inj h).2).2
      exact ⟨Char.toNat_inj.mp (by omega), hrs⟩

/-! ### Values -/

/-- Induction over JSON values. -/
@[elab_as_elim]
theorem inductionOn {P : Json → Prop} (x : Json) (null : P null) (bool : ∀ b, P (bool b))
    (int : ∀ n, P (int n)) (float : ∀ q text, P (float q text)) (str : ∀ s, P (str s))
    (list : ∀ xs, (∀ x ∈ xs, P x) → P (list xs))
    (obj : ∀ fields, (∀ field ∈ fields, P field.2) → P (obj fields)) : P x := by
  match x with
  | .null => exact null
  | .bool b => exact bool b
  | .int n => exact int n
  | .float q text => exact float q text
  | .str s => exact str s
  | .list xs => exact list xs fun x _ => inductionOn x null bool int float str list obj
  | .obj fields =>
    exact obj fields fun field _ => inductionOn field.2 null bool int float str list obj
termination_by sizeOf x
decreasing_by
  · have := List.sizeOf_lt_of_mem ‹x ∈ xs›
    simp only [Json.list.sizeOf_spec]
    omega
  · have := List.sizeOf_lt_of_mem ‹field ∈ fields›
    obtain ⟨name, value⟩ := field
    simp only [Json.obj.sizeOf_spec, Prod.mk.sizeOf_spec] at this ⊢
    omega

section Dumps

variable (escape : Char → List Char)

def quoteAs (s : String) : List Char := '"' :: (s.toList.flatMap escape ++ ['"'])

mutual
/-- `json.dumps(value, sort_keys=True, separators=(",", ":"))`, where `escape` writes the
characters of strings. -/
def dumpsAs : Json → List Char
  | null => "null".toList
  | bool b => (if b then "true" else "false").toList
  | int n => (toString n).toList
  | float _ text => text.toList
  | str s => quoteAs escape s
  | list xs => '[' :: ([','].intercalate (dumpsAsList xs) ++ [']'])
  | obj fields => '\x7b' :: ([','].intercalate ((orderBy Prod.fst
      (dumpsAsFields fields)).map fun field => quoteAs escape field.1 ++ ':' :: field.2) ++
      ['\x7d'])

def dumpsAsList : List Json → List (List Char)
  | [] => []
  | x :: xs => dumpsAs x :: dumpsAsList xs

def dumpsAsFields : List (String × Json) → List (String × List Char)
  | [] => []
  | (k, x) :: xs => (k, dumpsAs x) :: dumpsAsFields xs
end

end Dumps

mutual
/-- `json.dumps(value, sort_keys=True)` -/
def dumpsSpaced : Json → List Char
  | null => "null".toList
  | bool b => (if b then "true" else "false").toList
  | int n => (toString n).toList
  | float _ text => text.toList
  | str s => quoteChars s
  | list xs => '[' :: ([',', ' '].intercalate (dumpsSpacedList xs) ++ [']'])
  | obj fields => '\x7b' :: ([',', ' '].intercalate ((orderBy Prod.fst
      (dumpsSpacedFields fields)).map fun field => quoteChars field.1 ++ ':' :: ' ' :: field.2) ++
      ['\x7d'])

def dumpsSpacedList : List Json → List (List Char)
  | [] => []
  | x :: xs => dumpsSpaced x :: dumpsSpacedList xs

def dumpsSpacedFields : List (String × Json) → List (String × List Char)
  | [] => []
  | (k, x) :: xs => (k, dumpsSpaced x) :: dumpsSpacedFields xs
end

mutual
/-- With `ensure_ascii`. -/
theorem dumpsAs_escapeChar (x : Json) : dumpsAs escapeChar x = dumps x := by
  match x with
  | .null => rfl
  | .bool b => rfl
  | .int n => rfl
  | .float q text => rfl
  | .str s => rfl
  | .list xs => rw [dumpsAs, dumps, dumpsAsList_escapeChar xs]
  | .obj fields =>
    rw [dumpsAs, dumps, dumpsAsFields_escapeChar fields]
    rfl

theorem dumpsAsList_escapeChar (xs : List Json) :
    dumpsAsList escapeChar xs = dumpsList xs := by
  match xs with
  | [] => rfl
  | x :: xs => rw [dumpsAsList, dumpsList, dumpsAs_escapeChar x, dumpsAsList_escapeChar xs]

theorem dumpsAsFields_escapeChar (xs : List (String × Json)) :
    dumpsAsFields escapeChar xs = dumpsFields xs := by
  match xs with
  | [] => rfl
  | (k, x) :: xs =>
    rw [dumpsAsFields, dumpsFields, dumpsAs_escapeChar x, dumpsAsFields_escapeChar xs]
end

mutual
/-- The value with the keys of its objects in order. -/
def canon : Json → Json
  | list xs => list (canonList xs)
  | obj fields => obj (orderBy Prod.fst (canonFields fields))
  | x => x

def canonList : List Json → List Json
  | [] => []
  | x :: xs => canon x :: canonList xs

def canonFields : List (String × Json) → List (String × Json)
  | [] => []
  | (k, x) :: xs => (k, canon x) :: canonFields xs
end

section Fields

variable (escape : Char → List Char)

lemma dumpsAsList_eq (xs : List Json) : dumpsAsList escape xs = xs.map (dumpsAs escape) := by
  induction xs with
  | nil => rfl
  | cons x xs ih => rw [dumpsAsList, ih, List.map_cons]

lemma canonList_eq (xs : List Json) : canonList xs = xs.map canon := by
  induction xs with
  | nil => rfl
  | cons x xs ih => rw [canonList, ih, List.map_cons]

lemma orderBy_dumpsAsFields (fields : List (String × Json)) :
    orderBy Prod.fst (dumpsAsFields escape fields) =
      (orderBy Prod.fst fields).map fun field => (field.1, dumpsAs escape field.2) := by
  have hmap : dumpsAsFields escape fields =
      fields.map fun field => (field.1, dumpsAs escape field.2) := by
    induction fields with
    | nil => rfl
    | cons field fields ih => rw [dumpsAsFields, ih, List.map_cons]
  rw [hmap]
  exact orderBy_map _ fun _ _ => rfl

lemma orderBy_canonFields (fields : List (String × Json)) :
    orderBy Prod.fst (canonFields fields) =
      (orderBy Prod.fst fields).map fun field => (field.1, canon field.2) := by
  have hmap : canonFields fields = fields.map fun field => (field.1, canon field.2) := by
    induction fields with
    | nil => rfl
    | cons field fields ih => rw [canonFields, ih, List.map_cons]
  rw [hmap]
  exact orderBy_map _ fun _ _ => rfl

end Fields

/-! ### What the text determines -/

/-- The characters of numbers. -/
def isNumeric (c : Char) : Prop := c.isDigit ∨ c ∈ ['-', '+', '.', 'e']

/-- The values that Python has: no key is there twice, and the text of a float is its `repr`,
which `float` reads back. -/
inductive Valid (float : String → ℚ) : Json → Prop where
  | null : Valid float null
  | bool (b : Bool) : Valid float (bool b)
  | int (n : ℤ) : Valid float (int n)
  | float {q : ℚ} {text : String} (hread : float text = q) (hnumeric : ∀ c ∈ text.toList, isNumeric c)
      (hpoint : ∃ c ∈ text.toList, c = '.' ∨ c = 'e') : Valid float (Json.float q text)
  | str (s : String) : Valid float (str s)
  | list {xs : List Json} (h : ∀ x ∈ xs, Valid float x) : Valid float (list xs)
  | obj {fields : List (String × Json)} (hkeys : (fields.map Prod.fst).Nodup)
      (h : ∀ field ∈ fields, Valid float field.2) : Valid float (obj fields)

/-- The characters outside strings that neither open nor close nor separate. -/
def isWord (c : Char) : Prop := c ∉ ['"', '[', ']', '\x7b', '\x7d', ',']

def isLiteral : Json → Prop
  | null | bool _ => True
  | _ => False

def isNumber : Json → Prop
  | int _ | Json.float _ _ => True
  | _ => False

variable {float : String → ℚ} {escape escape' : Char → List Char} {x y : Json} {r s : List Char}

lemma isNumeric.isWord {c : Char} (hc : isNumeric c) : isWord c := by
  intro hmem
  simp only [List.mem_cons, List.not_mem_nil, or_false] at hmem
  rcases hmem with rfl | rfl | rfl | rfl | rfl | rfl <;> simp [isNumeric, Char.isDigit] at hc

/-- An integer is written in digits, after a sign if it is negative. -/
lemma toList_toString_int (n : ℤ) : (toString n).toList =
    if 0 ≤ n then Nat.toDigits 10 n.toNat else '-' :: Nat.toDigits 10 (-n).toNat := by
  rw [Int.toString_eq_repr, Int.repr_eq_if]
  split_ifs
  · rw [Nat.toList_repr]
  · rw [String.toList_append, Nat.toList_repr]
    rfl

lemma isDigit_of_mem {n : ℕ} {c : Char} (hc : c ∈ Nat.toDigits 10 n) : c.isDigit = true :=
  Nat.isDigit_of_mem_toDigits (by decide) (by decide) hc

lemma mem_toString_int {n : ℤ} {c : Char} (hc : c ∈ (toString n).toList) :
    c.isDigit = true ∨ c = '-' := by
  rw [toList_toString_int] at hc
  split_ifs at hc
  · exact .inl (isDigit_of_mem hc)
  · rcases List.mem_cons.mp hc with rfl | hc
    · exact .inr rfl
    · exact .inl (isDigit_of_mem hc)

lemma toDigits_inj {m n : ℕ} (h : Nat.toDigits 10 m = Nat.toDigits 10 n) : m = n := by
  have := congrArg (Nat.ofDigitChars 10 · 0) h
  simpa only [Nat.ofDigitChars_ten_toDigits] using this

lemma toString_int_inj {m n : ℤ} (h : (toString m).toList = (toString n).toList) : m = n := by
  have hsign : ∀ {k : ℕ} {t : List Char}, '-' :: t ≠ Nat.toDigits 10 k := by
    intro k t hk
    have hdigit : '-'.isDigit = true := isDigit_of_mem (hk ▸ List.mem_cons_self)
    cases hdigit
  rw [toList_toString_int, toList_toString_int] at h
  split_ifs at h with hm hn hn
  · have := toDigits_inj h
    omega
  · exact absurd h.symm hsign
  · exact absurd h hsign
  · have := toDigits_inj (List.cons.inj h).2
    omega

lemma isNumeric_dumpsAs (hx : Valid float x) (hnum : isNumber x) :
    ∀ c ∈ dumpsAs escape x, isNumeric c := by
  cases hx with
  | int n =>
    intro c hc
    rcases mem_toString_int hc with hc | rfl
    · exact .inl hc
    · exact .inr (by decide)
  | float hread hnumeric hpoint => exact hnumeric
  | null | bool | str | list | obj => exact hnum.elim

/-- A literal begins with no character of a number. -/
lemma not_isNumeric_literal (escape : Char → List Char) (hlit : isLiteral x) :
    ∃ c ∈ dumpsAs escape x, ¬isNumeric c := by
  cases x with
  | null => exact ⟨'n', List.mem_cons_self, by simp [isNumeric, Char.isDigit]⟩
  | bool b =>
    cases b with
    | true => exact ⟨'t', List.mem_cons_self, by simp [isNumeric, Char.isDigit]⟩
    | false => exact ⟨'f', List.mem_cons_self, by simp [isNumeric, Char.isDigit]⟩
  | int | float | str | list | obj => exact hlit.elim

lemma literal_inj (hx : isLiteral x) (hy : isLiteral y)
    (h : dumpsAs escape x = dumpsAs escape' y) : x = y := by
  cases x with
  | null =>
    cases y with
    | null => rfl
    | bool b => cases b <;> cases h
    | int | float | str | list | obj => exact hy.elim
  | bool b =>
    cases y with
    | null => cases b <;> cases h
    | bool b' => cases b <;> cases b' <;> first | rfl | cases h
    | int | float | str | list | obj => exact hy.elim
  | int | float | str | list | obj => exact hx.elim

lemma number_inj (hx : Valid float x) (hy : Valid float y) (hnum : isNumber x)
    (hnum' : isNumber y) (h : dumpsAs escape x = dumpsAs escape' y) : x = y := by
  have hpoint_int : ∀ {n : ℤ} {text : List Char}, (∃ c ∈ text, c = '.' ∨ c = 'e') →
      text ≠ (toString n).toList := by
    rintro n text ⟨c, hc, hpoint⟩ rfl
    rcases mem_toString_int hc with hdigit | rfl
    · rcases hpoint with rfl | rfl <;> cases hdigit
    · rcases hpoint with hpoint | hpoint <;> cases hpoint
  cases hx with
  | int n =>
    cases hy with
    | int n' => exact congrArg Json.int (toString_int_inj h)
    | float hread hnumeric hpoint => exact absurd h.symm (hpoint_int hpoint)
    | null | bool | str | list | obj => exact hnum'.elim
  | float hread hnumeric hpoint =>
    cases hy with
    | int n => exact absurd h (hpoint_int hpoint)
    | float hread' =>
      obtain rfl := String.toList_inj.mp h
      rw [← hread, ← hread']
    | null | bool | str | list | obj => exact hnum'.elim
  | null | bool | str | list | obj => exact hnum.elim

/-- A value that is written as one word is determined by it. -/
lemma bare_inj (hx : Valid float x) (hy : Valid float y) (hbare : isLiteral x ∨ isNumber x)
    (hbare' : isLiteral y ∨ isNumber y) (h : dumpsAs escape x = dumpsAs escape' y) : x = y := by
  rcases hbare with hlit | hnum
  · rcases hbare' with hlit' | hnum'
    · exact literal_inj hlit hlit' h
    · obtain ⟨c, hc, hno⟩ := not_isNumeric_literal escape hlit
      exact absurd (isNumeric_dumpsAs hy hnum' c (h ▸ hc)) hno
  · rcases hbare' with hlit' | hnum'
    · obtain ⟨c, hc, hno⟩ := not_isNumeric_literal escape' hlit'
      exact absurd (isNumeric_dumpsAs hx hnum c (h ▸ hc)) hno
    · exact number_inj hx hy hnum hnum' h

/-- The characters with which the text of a value may begin. -/
def opens : Json → Char → Prop
  | str _, c => c = '"'
  | list _, c => c = '['
  | obj _, c => c = '\x7b'
  | _, c => isWord c

lemma exists_opens (escape : Char → List Char) (hx : Valid float x) :
    ∃ c t, dumpsAs escape x = c :: t ∧ x.opens c := by
  have hword : ∀ {w : List Char}, w ≠ [] → (∀ c ∈ w, isWord c) → ∃ c t, w = c :: t ∧ isWord c := by
    intro w hw hall
    cases w with
    | nil => exact absurd rfl hw
    | cons c t => exact ⟨c, t, rfl, hall c List.mem_cons_self⟩
  cases hx with
  | null => exact hword (by simp [dumpsAs]) (by simp [dumpsAs, isWord])
  | bool b => cases b <;> exact hword (by simp [dumpsAs]) (by simp [dumpsAs, isWord])
  | int n =>
    have hint : Valid float (int n) := .int n
    refine hword ?_ fun c hc => (isNumeric_dumpsAs hint trivial c hc).isWord
    rw [dumpsAs, toList_toString_int]
    split_ifs
    · exact Nat.toDigits_ne_nil
    · exact List.cons_ne_nil _ _
  | float hread hnumeric hpoint =>
    obtain ⟨c, hc, -⟩ := hpoint
    exact hword (List.ne_nil_of_mem hc) fun c hc => (hnumeric c hc).isWord
  | str s => exact ⟨_, _, rfl, rfl⟩
  | list => exact ⟨_, _, rfl, rfl⟩
  | obj => exact ⟨_, _, rfl, rfl⟩

lemma isWord_dumpsAs (hx : Valid float x) (hbare : isLiteral x ∨ isNumber x) :
    ∀ c ∈ dumpsAs escape x, isWord c := by
  rcases hbare with hlit | hnum
  · cases hx with
    | null => simp [dumpsAs, isWord]
    | bool b => cases b <;> simp [dumpsAs, isWord]
    | int | float | str | list | obj => exact hlit.elim
  · exact fun c hc => (isNumeric_dumpsAs hx hnum c hc).isWord

/-- No character is written so that it would close the string. -/
lemma Escaped.ne_quote {c : Char} {u : List Char} (hc : Escaped c u) : u ++ r ≠ '"' :: s := by
  intro h
  cases hc with
  | plain hquote => exact hquote (List.cons.inj h).1
  | short | unit | pair => cases (List.cons.inj h).1

/-- A string ends at its closing quote. -/
lemma quoteAs_inj (hescape : ∀ c, Escaped c (escape c)) (hescape' : ∀ c, Escaped c (escape' c))
    {a b : String} (h : quoteAs escape a ++ r = quoteAs escape' b ++ s) : a = b ∧ r = s := by
  have hcode : PrefixCode escape escape' := fun c d r s h => (hescape c).inj (hescape' d) h
  simp only [quoteAs, List.cons_append, List.append_assoc, List.nil_append, List.cons.injEq,
    true_and] at h
  obtain ⟨hab, hrs⟩ := quoted_inj hcode (fun c _ _ => (hescape c).ne_quote)
    (fun c _ _ => (hescape' c).ne_quote) h
  exact ⟨String.toList_inj.mp hab, hrs⟩

lemma opens_of_append (hy : Valid float y) {c : Char} {t : List Char}
    (h : c :: t = dumpsAs escape y ++ s) : y.opens c := by
  obtain ⟨d, t', hyt, hyd⟩ := exists_opens escape hy
  rw [hyt] at h
  obtain rfl := (List.cons.inj h).1
  exact hyd

/-- No value begins with the bracket that closes a list. -/
lemma not_opens_close : ¬x.opens ']' := by
  cases x <;> simp [opens, isWord]

lemma bare_append_inj (hx : Valid float x) (hy : Valid float y) (hbare : isLiteral x ∨ isNumber x)
    (hr : Stops isWord r) (hs : Stops isWord s)
    (h : dumpsAs escape x ++ r = dumpsAs escape' y ++ s) : canon x = canon y ∧ r = s := by
  obtain ⟨c, t, hxt, hxc⟩ := exists_opens escape hx
  have hword : isWord c := isWord_dumpsAs hx hbare c (hxt ▸ List.mem_cons_self)
  have hyc : y.opens c := by
    rw [hxt] at h
    exact opens_of_append hy h
  have hbare' : isLiteral y ∨ isNumber y := by
    cases y with
    | null | bool => exact .inl trivial
    | int | float => exact .inr trivial
    | str | list | obj =>
      obtain rfl := hyc
      exact absurd hword (by simp [isWord])
  obtain ⟨hxy, hrs⟩ :=
    word_inj (isWord_dumpsAs hx hbare) (isWord_dumpsAs hy hbare') hr hs h
  exact ⟨congrArg canon (bare_inj hx hy hbare hbare' hxy), hrs⟩

lemma map_eq_map {α β γ : Type} {f : α → γ} {g : β → γ} {xs : List α} {ys : List β}
    (h : List.Forall₂ (fun x y => f x = g y) xs ys) : xs.map f = ys.map g := by
  rw [← List.forall₂_eq_eq_eq, List.forall₂_map_left_iff, List.forall₂_map_right_iff]
  exact h

/-- From a text that begins with a value, the value up to the order of keys and the rest of the
text are determined, however characters are written in it. -/
theorem dumpsAs_append_inj (hescape : ∀ c, Escaped c (escape c))
    (hescape' : ∀ c, Escaped c (escape' c)) (hx : Valid float x) (hy : Valid float y)
    (hr : Stops isWord r) (hs : Stops isWord s)
    (h : dumpsAs escape x ++ r = dumpsAs escape' y ++ s) : canon x = canon y ∧ r = s := by
  induction x using inductionOn generalizing y r s with
  | null => exact bare_append_inj hx hy (.inl trivial) hr hs h
  | bool b => exact bare_append_inj hx hy (.inl trivial) hr hs h
  | int n => exact bare_append_inj hx hy (.inr trivial) hr hs h
  | float q text => exact bare_append_inj hx hy (.inr trivial) hr hs h
  | str a =>
    have hyc : y.opens '"' := opens_of_append hy h
    cases y with
    | str b =>
      obtain ⟨rfl, hrs⟩ := quoteAs_inj hescape hescape' h
      exact ⟨rfl, hrs⟩
    | _ => simp [opens, isWord] at hyc
  | list xs ih =>
    have hyc : y.opens '[' := opens_of_append hy h
    cases y with
    | list ys =>
      cases hx with | list hxs =>
      cases hy with | list hys =>
      have hitem : ∀ (escape : Char → List Char) (z : Json), Valid float z → ∀ r s,
          dumpsAs escape z ++ r ≠ ']' :: s :=
        fun escape z hz r s h => not_opens_close (opens_of_append hz h.symm)
      simp only [dumpsAs, dumpsAsList_eq, List.cons_append, List.append_assoc, List.nil_append,
        List.cons.injEq, true_and] at h
      obtain ⟨hall, hrs⟩ := separated_inj (p := isWord) (R := fun x y => canon x = canon y)
        (by simp [isWord]) (by simp [isWord]) (by decide) (fun x hx => hitem escape x (hxs x hx))
        (fun y hy => hitem escape' y (hys y hy))
        (fun x hx y hy r s hr hs h => ih x hx (hxs x hx) (hys y hy) hr hs h) h
      refine ⟨?_, hrs⟩
      rw [canon, canon, canonList_eq, canonList_eq, map_eq_map hall]
    | _ => simp [opens, isWord] at hyc
  | obj fields ih =>
    have hyc : y.opens '\x7b' := opens_of_append hy h
    cases y with
    | obj fields' =>
      cases hx with | obj _ hxs =>
      cases hy with | obj _ hys =>
      simp only [dumpsAs, orderBy_dumpsAsFields, List.map_map, List.cons_append,
        List.append_assoc, List.nil_append, List.cons.injEq, true_and] at h
      have hread : ∀ f ∈ orderBy Prod.fst fields, ∀ g ∈ orderBy Prod.fst fields',
          ∀ r s, Stops isWord r → Stops isWord s →
          quoteAs escape f.1 ++ ':' :: dumpsAs escape f.2 ++ r =
            quoteAs escape' g.1 ++ ':' :: dumpsAs escape' g.2 ++ s →
          (f.1, canon f.2) = (g.1, canon g.2) ∧ r = s := by
        intro f hf g hg r s hr hs h
        rw [List.append_assoc, List.append_assoc] at h
        obtain ⟨hkey, h⟩ := quoteAs_inj hescape hescape' h
        obtain ⟨hval, hrs⟩ := ih f (mem_orderBy.mp hf) (hxs f (mem_orderBy.mp hf))
          (hys g (mem_orderBy.mp hg)) hr hs (List.cons.inj h).2
        exact ⟨Prod.ext hkey hval, hrs⟩
      obtain ⟨hall, hrs⟩ := separated_inj (p := isWord) (by simp [isWord]) (by simp [isWord])
        (by decide) (by simp [quoteAs]) (by simp [quoteAs]) hread h
      refine ⟨?_, hrs⟩
      rw [canon, canon, orderBy_canonFields, orderBy_canonFields, map_eq_map hall]
    | _ => simp [opens, isWord] at hyc

/-- Canonical JSON determines the value up to the order of keys. -/
theorem dumpsAs_inj (hescape : ∀ c, Escaped c (escape c)) (hescape' : ∀ c, Escaped c (escape' c))
    (hx : Valid float x) (hy : Valid float y) (h : dumpsAs escape x = dumpsAs escape' y) :
    canon x = canon y :=
  (dumpsAs_append_inj hescape hescape' hx hy stops_nil stops_nil (congrArg (· ++ []) h)).1

theorem dumps_inj (hx : Valid float x) (hy : Valid float y) (h : dumps x = dumps y) :
    canon x = canon y := by
  rw [← dumpsAs_escapeChar, ← dumpsAs_escapeChar] at h
  exact dumpsAs_inj escaped_escapeChar escaped_escapeChar hx hy h

/-- Where keys are distinct, a key is looked up by membership. -/
lemma lookup_eq_some {α : Type} {fields : List (String × α)} {key : String} {v : α}
    (hkeys : (fields.map Prod.fst).Nodup) : fields.lookup key = some v ↔ (key, v) ∈ fields := by
  induction fields with
  | nil => simp
  | cons field fields ih =>
    obtain ⟨name, value⟩ := field
    obtain ⟨hnew, hkeys'⟩ := List.nodup_cons.mp hkeys
    rw [List.lookup_cons, List.mem_cons]
    by_cases hname : key = name
    · subst hname
      have hnone : (key, v) ∉ fields :=
        fun hv => hnew (List.mem_map.mpr ⟨(key, v), hv, rfl⟩)
      simp [hnone, eq_comm]
    · have hne : (key == name) = false := by simpa using hname
      simp only [hne, ih hkeys', Prod.mk.injEq, hname, false_and, false_or]

lemma lookup_map {α β : Type} (f : α → β) (fields : List (String × α)) (key : String) :
    (fields.map fun field => (field.1, f field.2)).lookup key = (fields.lookup key).map f := by
  induction fields with
  | nil => rfl
  | cons field fields ih =>
    rw [List.map_cons, List.lookup_cons, List.lookup_cons, ih]
    cases key == field.1 <;> rfl

lemma canonFields_perm {fields fields' : Dict} (h : canon (obj fields) = canon (obj fields')) :
    (fields.map fun field => (field.1, canon field.2)).Perm
      (fields'.map fun field => (field.1, canon field.2)) := by
  simp only [canon, obj.injEq, orderBy_canonFields] at h
  have hperm : ∀ fs : Dict, ((orderBy Prod.fst fs).map fun field => (field.1, canon field.2)).Perm
      (fs.map fun field => (field.1, canon field.2)) :=
    fun fs => (perm_orderBy Prod.fst fs).map _
  exact (hperm fields).symm.trans (h ▸ hperm fields')

/-- Objects that are the same up to the order of keys have the same under every key. -/
theorem canon_get {fields fields' : Dict} (hkeys : (fields.map Prod.fst).Nodup)
    (hkeys' : (fields'.map Prod.fst).Nodup) (h : canon (obj fields) = canon (obj fields'))
    (key : String) : (Dict.get fields key).map canon = (Dict.get fields' key).map canon := by
  have hperm := canonFields_perm h
  have hnodup : ∀ {fs : Dict}, (fs.map Prod.fst).Nodup →
      ((fs.map fun field => (field.1, canon field.2)).map Prod.fst).Nodup := by
    intro fs hfs
    rwa [List.map_map]
  rw [Dict.get, Dict.get, ← lookup_map, ← lookup_map]
  refine Option.ext fun v => ?_
  rw [lookup_eq_some (hnodup hkeys), lookup_eq_some (hnodup hkeys'), hperm.mem_iff]

/-! ### Equality up to the order of keys -/

/-- Equal as JSON values: the order of the keys of an object does not matter. -/
inductive Same : Json → Json → Prop where
  | null : Same null null
  | bool (b : Bool) : Same (bool b) (bool b)
  | int (n : ℤ) : Same (int n) (int n)
  | str (s : String) : Same (str s) (str s)
  | list {xs ys : List Json} (h : List.Forall₂ Same xs ys) : Same (list xs) (list ys)
  | obj {fields fields' : Dict}
      (h : ∀ key, Option.Rel Same (Dict.get fields key) (Dict.get fields' key)) :
      Same (obj fields) (obj fields')

/-- The values that Python has, and no float in them. -/
inductive Floatless : Json → Prop where
  | null : Floatless null
  | bool (b : Bool) : Floatless (bool b)
  | int (n : ℤ) : Floatless (int n)
  | str (s : String) : Floatless (str s)
  | list {xs : List Json} (h : ∀ x ∈ xs, Floatless x) : Floatless (list xs)
  | obj {fields : Dict} (hkeys : (fields.map Prod.fst).Nodup)
      (h : ∀ field ∈ fields, Floatless field.2) : Floatless (obj fields)

lemma Floatless.valid (hx : Floatless x) : Valid float x := by
  induction hx with
  | null => exact .null
  | bool b => exact .bool b
  | int n => exact .int n
  | str s => exact .str s
  | list _ ih => exact .list ih
  | obj hkeys _ ih => exact .obj hkeys ih

/-- Objects with the same values under every key are the same once their keys are in order. -/
lemma canon_obj_of_get {fields fields' : Dict} (hkeys : (fields.map Prod.fst).Nodup)
    (hkeys' : (fields'.map Prod.fst).Nodup)
    (h : ∀ key, (Dict.get fields key).map canon = (Dict.get fields' key).map canon) :
    canon (obj fields) = canon (obj fields') := by
  let canons := fun fs : Dict => fs.map fun field => (field.1, canon field.2)
  have hnodup : ∀ {fs : Dict}, (fs.map Prod.fst).Nodup → ((canons fs).map Prod.fst).Nodup := by
    intro fs hfs
    rwa [List.map_map]
  have hperm : (canons fields).Perm (canons fields') := by
    refine (List.perm_ext_iff_of_nodup (hnodup hkeys).of_map (hnodup hkeys').of_map).mpr ?_
    rintro ⟨key, v⟩
    rw [← lookup_eq_some (hnodup hkeys), ← lookup_eq_some (hnodup hkeys'), lookup_map, lookup_map]
    exact iff_of_eq (congrArg (· = some v) (h key))
  rw [canon, canon, obj.injEq, orderBy_canonFields, orderBy_canonFields]
  have hmap : ∀ fs : Dict, orderBy Prod.fst (canons fs) =
      (orderBy Prod.fst fs).map fun field => (field.1, canon field.2) :=
    fun fs => orderBy_map _ fun _ _ => rfl
  rw [← hmap, ← hmap]
  exact orderBy_eq_of_perm hperm (hnodup hkeys)

lemma map_canon_of_rel {a b : Option Json} (h : Option.Rel Same a b)
    (hcanon : ∀ x ∈ a, ∀ y ∈ b, Same x y → canon x = canon y) : a.map canon = b.map canon := by
  cases h with
  | none => rfl
  | some h => exact congrArg some (hcanon _ rfl _ rfl h)

lemma mem_of_get {fields : Dict} {key : String} (h : x ∈ Dict.get fields key) :
    (key, x) ∈ fields := by
  obtain ⟨before, after, heq, -⟩ := List.lookup_eq_some_iff.mp h
  rw [heq]
  simp

lemma canon_of_same (hx : Floatless x) (hy : Floatless y) (h : Same x y) : canon x = canon y := by
  induction hx generalizing y with
  | null => cases h; rfl
  | bool b => cases h; rfl
  | int n => cases h; rfl
  | str s => cases h; rfl
  | list hxs ih =>
    cases h with | list h =>
    cases hy with | list hys =>
    rw [canon, canon, canonList_eq, canonList_eq, list.injEq]
    apply map_eq_map
    clear hxs
    induction h with
    | nil => exact .nil
    | cons hab _ ihs =>
      exact .cons (ih _ (.head _) (hys _ (.head _)) hab)
        (ihs (fun x hx => ih x (.tail _ hx)) fun y hy => hys y (.tail _ hy))
  | obj hkeys _ ih =>
    cases h with | obj h =>
    cases hy with | obj hkeys' hvals' =>
    refine canon_obj_of_get hkeys hkeys' fun key => map_canon_of_rel (h key) ?_
    intro a ha b hb hab
    exact ih _ (mem_of_get ha) (hvals' _ (mem_of_get hb)) hab

lemma same_of_canon (hx : Floatless x) (hy : Floatless y) (h : canon x = canon y) : Same x y := by
  induction hx generalizing y with
  | null => cases hy <;> simp [canon] at h; exact .null
  | bool b => cases hy <;> simp [canon] at h; exact h ▸ .bool b
  | int n => cases hy <;> simp [canon] at h; exact h ▸ .int n
  | str s => cases hy <;> simp [canon] at h; exact h ▸ .str s
  | list hxs ih =>
    cases hy with
    | list hys =>
      rw [canon, canon, canonList_eq, canonList_eq, list.injEq] at h
      refine .list ?_
      rw [← List.forall₂_eq_eq_eq, List.forall₂_map_left_iff, List.forall₂_map_right_iff] at h
      clear hxs
      induction h with
      | nil => exact .nil
      | cons hab _ ihs =>
        exact .cons (ih _ (.head _) (hys _ (.head _)) hab)
          (ihs (fun x hx => ih x (.tail _ hx)) fun y hy => hys y (.tail _ hy))
    | _ => simp [canon] at h
  | @obj fields hkeys hvals ih =>
    cases hy with
    | obj hkeys' hvals' =>
      refine .obj fun key => ?_
      have hget := canon_get hkeys hkeys' h key
      cases ha : Dict.get fields key with
      | none =>
        rw [ha, Option.map_none, eq_comm, Option.map_eq_none_iff] at hget
        rw [hget]
        exact .none
      | some a =>
        rw [ha, Option.map_some, eq_comm, Option.map_eq_some_iff] at hget
        obtain ⟨b, hb, hcanon⟩ := hget
        rw [hb]
        exact .some (ih _ (mem_of_get ha) (hvals' _ (mem_of_get hb)) hcanon.symm)
    | _ => simp [canon] at h

theorem same_iff_canon (hx : Floatless x) (hy : Floatless y) : Same x y ↔ canon x = canon y :=
  ⟨canon_of_same hx hy, same_of_canon hx hy⟩

/-- The text has the same keys in the same order whatever the order in the object is. -/
theorem dumps_canon (x : Json) : dumps (canon x) = dumps x := by
  induction x using inductionOn with
  | null | bool | int | float | str => rfl
  | list xs ih =>
    have hmap : dumpsList (canonList xs) = dumpsList xs := by
      rw [← dumpsAsList_escapeChar, ← dumpsAsList_escapeChar, dumpsAsList_eq, dumpsAsList_eq,
        canonList_eq, List.map_map]
      refine List.map_congr_left fun x hx => ?_
      rw [Function.comp_apply, dumpsAs_escapeChar, dumpsAs_escapeChar, ih x hx]
    rw [canon, dumps, dumps, hmap]
  | obj fields ih =>
    have hmap : orderBy Prod.fst (dumpsFields (orderBy Prod.fst (canonFields fields))) =
        orderBy Prod.fst (dumpsFields fields) := by
      have hsame : orderBy Prod.fst ((orderBy Prod.fst fields).map fun field =>
          (field.1, canon field.2)) = (orderBy Prod.fst fields).map fun field =>
          (field.1, canon field.2) := by
        rw [orderBy_map _ fun _ _ => rfl, orderBy_orderBy]
      rw [← dumpsAsFields_escapeChar, ← dumpsAsFields_escapeChar, orderBy_dumpsAsFields,
        orderBy_dumpsAsFields, orderBy_canonFields, hsame, List.map_map]
      refine List.map_congr_left fun field hfield => ?_
      rw [Function.comp_apply, dumpsAs_escapeChar, dumpsAs_escapeChar,
        ih field (mem_orderBy.mp hfield)]
    rw [canon, dumps, dumps, hmap]

/-- Canonical JSON is the same for two values exactly when they are, up to the order of keys. -/
theorem dumps_eq_iff (hx : Floatless x) (hy : Floatless y) : dumps x = dumps y ↔ Same x y := by
  rw [same_iff_canon hx hy]
  constructor
  · intro h
    have hx' : Valid (fun _ => 0) x := hx.valid
    exact dumps_inj hx' hy.valid h
  · intro h
    rw [← dumps_canon x, h, dumps_canon]

end Json
end AiHq
