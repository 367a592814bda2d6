import AiHq.Python.Padding
import AiHq.Python.Serialization

/-!
# Encoding JSON

`json.dumps` in the compact form that goes over sockets. What it writes of a value, `json.loads`
reads back as that value.
-/

namespace AiHq

namespace Json

mutual
/-- The text of `json.dumps(value, separators=(",", ":"))`. -/
def compact : Json → List Char
  | null => "null".toList
  | bool b => (if b then "true" else "false").toList
  | int n => (toString n).toList
  | float _ text => text.toList
  | str s => quoteChars s
  | list xs => '[' :: ([','].intercalate (compactList xs) ++ [']'])
  | obj fields => '\x7b' :: ([','].intercalate (compactFields fields) ++ ['\x7d'])

def compactList : List Json → List (List Char)
  | [] => []
  | x :: xs => compact x :: compactList xs

def compactFields : List (String × Json) → List (List Char)
  | [] => []
  | (k, x) :: xs => (quoteChars k ++ ':' :: compact x) :: compactFields xs
end

mutual
/-- How many containers are open at once. -/
def depth : Json → ℕ
  | list xs => depthList xs + 1
  | obj fields => depthFields fields + 1
  | _ => 0

def depthList : List Json → ℕ
  | [] => 0
  | x :: xs => max (depth x) (depthList xs)

def depthFields : List (String × Json) → ℕ
  | [] => 0
  | (_, x) :: xs => max (depth x) (depthFields xs)
end

mutual
/-- How many digits the longest integer has. -/
def digits : Json → ℕ
  | int n => (Nat.toDigits 10 n.natAbs).length
  | list xs => digitsList xs
  | obj fields => digitsFields fields
  | _ => 0

def digitsList : List Json → ℕ
  | [] => 0
  | x :: xs => max (digits x) (digitsList xs)

def digitsFields : List (String × Json) → ℕ
  | [] => 0
  | (_, x) :: xs => max (digits x) (digitsFields xs)
end

/-- `json.dumps(value, separators=(",", ":"))`, with the limits of the interpreter. -/
def encode (python : Interpreter) (x : Json) : Except PyError String :=
  if python.maxDepth < x.depth then .error DecodeError.recursionError.toPyError
  else if python.maxDigits < x.digits then .error DecodeError.valueError.toPyError
  else .ok (String.ofList x.compact)

/-- The values that the interpreter has of JSON: no key is there twice, and a float is what is
read of its text. -/
inductive IsData (python : Interpreter) : Json → Prop where
  | null : IsData python null
  | bool (b : Bool) : IsData python (bool b)
  | int (n : ℤ) : IsData python (int n)
  | float {q : ℚ} {text : String}
      (hread : scanNumber python text.toList = .ok (.float q text, [])) :
      IsData python (.float q text)
  | str (s : String) : IsData python (str s)
  | list {xs : List Json} (h : ∀ x ∈ xs, IsData python x) : IsData python (list xs)
  | obj {fields : Dict} (hkeys : (fields.map Prod.fst).Nodup)
      (h : ∀ field ∈ fields, IsData python field.2) : IsData python (obj fields)

lemma compactList_eq (xs : List Json) : compactList xs = xs.map compact := by
  induction xs with
  | nil => rfl
  | cons x xs ih => simp [compactList, ih]

/-- What stands for a member of an object. -/
def member (field : String × Json) : List Char := quoteChars field.1 ++ ':' :: compact field.2

lemma compactFields_eq (fields : Dict) : compactFields fields = fields.map member := by
  induction fields with
  | nil => rfl
  | cons field fields ih => simp [compactFields, member, ih]

lemma depth_le_depthList {x : Json} {xs : List Json} (h : x ∈ xs) : depth x ≤ depthList xs := by
  induction xs with
  | nil => cases h
  | cons y xs ih =>
    rw [depthList]
    obtain rfl | h := List.mem_cons.mp h
    · exact le_max_left _ _
    · exact (ih h).trans (le_max_right _ _)

lemma depth_le_depthFields {field : String × Json} {fields : Dict} (h : field ∈ fields) :
    depth field.2 ≤ depthFields fields := by
  induction fields with
  | nil => cases h
  | cons other fields ih =>
    rw [depthFields]
    obtain rfl | h := List.mem_cons.mp h
    · exact le_max_left _ _
    · exact (ih h).trans (le_max_right _ _)

lemma digits_le_digitsList {x : Json} {xs : List Json} (h : x ∈ xs) :
    digits x ≤ digitsList xs := by
  induction xs with
  | nil => cases h
  | cons y xs ih =>
    rw [digitsList]
    obtain rfl | h := List.mem_cons.mp h
    · exact le_max_left _ _
    · exact (ih h).trans (le_max_right _ _)

lemma digits_le_digitsFields {field : String × Json} {fields : Dict} (h : field ∈ fields) :
    digits field.2 ≤ digitsFields fields := by
  induction fields with
  | nil => cases h
  | cons other fields ih =>
    rw [digitsFields]
    obtain rfl | h := List.mem_cons.mp h
    · exact le_max_left _ _
    · exact (ih h).trans (le_max_right _ _)

/-! ### Strings -/

section Strings

variable {c : Char} {u cs rest : List Char}

/-- The code units by which a character is escaped. -/
def unitsOf (c : Char) : List ℕ :=
  if c.toNat < 0x10000 then [c.toNat]
  else [0xd800 + (c.toNat - 0x10000) / 0x400, 0xdc00 + (c.toNat - 0x10000) % 0x400]

lemma hexValue?_digitChar : ∀ d < 16, hexValue? (Nat.digitChar d) = some d := by decide

lemma codeUnit?_hexDigits {n : ℕ} (h : n < 0x10000) :
    codeUnit? (n / 16 / 16 / 16 % 16).digitChar (n / 16 / 16 % 16).digitChar
      (n / 16 % 16).digitChar (n % 16).digitChar = some n := by
  rw [codeUnit?, hexValue?_digitChar _ (by omega), hexValue?_digitChar _ (by omega),
    hexValue?_digitChar _ (by omega), hexValue?_digitChar _ (by omega)]
  show some _ = some n
  congr 1
  omega

lemma scanUnits_unit {n : ℕ} (h : n < 0x10000) : scanUnits ('\\' :: 'u' :: hexDigits 4 n ++ cs) =
    (scanUnits cs).map fun read => (n :: read.1, read.2) := by
  have hdigits : '\\' :: 'u' :: hexDigits 4 n ++ cs =
      '\\' :: 'u' :: (n / 16 / 16 / 16 % 16).digitChar :: (n / 16 / 16 % 16).digitChar ::
        (n / 16 % 16).digitChar :: (n % 16).digitChar :: cs := rfl
  rw [hdigits, scanUnits, codeUnit?_hexDigits h]
  cases scanUnits cs with
  | none => rfl
  | some read => rfl

lemma scanUnits_short {letter : Char} (h : (c, letter) ∈ shortEscapes) :
    scanUnits ('\\' :: letter :: cs) = (scanUnits cs).map fun read => (c.toNat :: read.1, read.2) := by
  have hne : letter ≠ 'u' := by
    rintro rfl
    exact not_mem_shortEscapes h
  have hlookup : escapes.lookup letter = some c.toNat := by
    have hall : ∀ entry ∈ shortEscapes, escapes.lookup entry.2 = some entry.1.toNat := by
      decide
    exact hall _ h
  rw [scanUnits, hlookup]
  · cases scanUnits cs with
    | none => rfl
    | some read => rfl
  · rintro a b c d rest rfl
    exact absurd rfl hne

lemma scanUnits_plain (hquote : c ≠ '"') (hback : c ≠ '\\') (h : 0x20 ≤ c.toNat) :
    scanUnits (c :: cs) = (scanUnits cs).map fun read => (c.toNat :: read.1, read.2) := by
  rw [scanUnits]
  · rw [guard, if_pos h]
    cases scanUnits cs with
    | none => rfl
    | some read => rfl
  · exact hquote
  · intro _ _ _ _ _ heq
    exact absurd heq hback
  · intro _ _ heq
    exact absurd heq hback

/-- An escaped character is read as its units. -/
lemma scanUnits_escapeChar (c : Char) : scanUnits (escapeChar c ++ cs) =
    (scanUnits cs).map fun read => (unitsOf c ++ read.1, read.2) := by
  have hsmall : c.toNat < 0x10000 → unitsOf c = [c.toNat] := fun h => if_pos h
  unfold escapeChar
  split_ifs with h₁ h₂ h₃ h₄ h₅ h₆ h₇ h₈ h₉
  · rw [hsmall (by subst h₁; decide)]
    exact scanUnits_short (by subst h₁; decide)
  · rw [hsmall (by subst h₂; decide)]
    exact scanUnits_short (by subst h₂; decide)
  · rw [hsmall (by subst h₃; decide)]
    exact scanUnits_short (by subst h₃; decide)
  · rw [hsmall (by subst h₄; decide)]
    exact scanUnits_short (by subst h₄; decide)
  · rw [hsmall (by subst h₅; decide)]
    exact scanUnits_short (by subst h₅; decide)
  · rw [hsmall (by omega)]
    obtain rfl : c = Char.ofNat 0x08 := Char.toNat_inj.mp h₆
    exact scanUnits_short (by decide)
  · rw [hsmall (by omega)]
    obtain rfl : c = Char.ofNat 0x0c := Char.toNat_inj.mp h₇
    exact scanUnits_short (by decide)
  · simp only [Bool.and_eq_true, decide_eq_true_eq] at h₈
    rw [hsmall (by omega)]
    exact scanUnits_plain h₁ h₂ h₈.1
  · rw [hsmall h₉]
    exact scanUnits_unit h₉
  · have hle := toNat_le c
    rw [unitsOf, if_neg h₉, List.append_assoc, scanUnits_unit (by omega),
      scanUnits_unit (by omega), Option.map_map]
    rfl

/-- The units of a character are joined to it. -/
lemma joinSurrogates_unitsOf (c : Char) (units : List ℕ) :
    joinSurrogates (unitsOf c ++ units) = c :: joinSurrogates units := by
  have hchar : charOf c.toNat = c := by
    have hvalid : c.toNat.isValidChar := c.valid
    rw [charOf, if_pos hvalid, Char.ofNat_toNat]
  have hle := toNat_le c
  unfold unitsOf
  split_ifs with h
  · have hsurrogate := toNat_not_surrogate c
    cases units with
    | nil => simp [joinSurrogates, hchar]
    | cons low units =>
      have hnot : ¬(0xd800 ≤ c.toNat ∧ c.toNat < 0xdc00 ∧ 0xdc00 ≤ low ∧ low < 0xe000) := by
        omega
      rw [List.singleton_append, joinSurrogates, if_neg hnot, hchar]
  · have hunit : 0x10000 + (0xd800 + (c.toNat - 0x10000) / 0x400 - 0xd800) * 0x400 +
        (0xdc00 + (c.toNat - 0x10000) % 0x400 - 0xdc00) = c.toNat := by
      omega
    rw [List.cons_append, List.singleton_append, joinSurrogates, if_pos (by omega), hunit, hchar]

lemma scanUnits_quoted (chars cs : List Char) :
    ∃ units, scanUnits (chars.flatMap escapeChar ++ '"' :: cs) = some (units, cs) ∧
      joinSurrogates units = chars := by
  induction chars with
  | nil => exact ⟨[], rfl, rfl⟩
  | cons c chars ih =>
    obtain ⟨units, hscan, hjoin⟩ := ih
    refine ⟨unitsOf c ++ units, ?_, by rw [joinSurrogates_unitsOf, hjoin]⟩
    rw [List.flatMap_cons, List.append_assoc, scanUnits_escapeChar, hscan]
    rfl

/-- A quoted text is read back, once its opening quote has been read. -/
lemma scanString_quoted (s : String) :
    scanString (s.toList.flatMap escapeChar ++ '"' :: cs) = .ok (s, cs) := by
  obtain ⟨units, hscan, hjoin⟩ := scanUnits_quoted s.toList cs
  rw [scanString, hscan]
  show Except.ok (String.ofList (joinSurrogates units), cs) = _
  rw [hjoin, String.ofList_toList]

end Strings

/-! ### Numbers -/

/-- What follows a value inside a container, or at the end. -/
def Stops (rest : List Char) : Prop := ∀ c ∈ rest.head?, c ∈ [',', ']', '\x7d']

section Numbers

variable {python : Interpreter} {cs rest : List Char}

lemma Stops.endsNumber (h : Stops rest) : EndsNumber rest := by
  have hend : ∀ d ∈ [',', ']', '\x7d'], d.isDigit = false ∧ d ∉ ['.', '+', '-', 'e', 'E'] := by
    decide
  exact fun c hc => hend c (h c hc)

/-- The part of a number after its sign begins with a digit. -/
lemma scanUnsigned_head {sign : List Char} {x : Json} {tail : List Char}
    (hscan : scanUnsigned python sign cs = .ok (x, tail)) :
    ∃ c ds, cs = c :: ds ∧ c.isDigit = true := by
  unfold scanUnsigned at hscan
  simp only at hscan
  split_ifs at hscan with hempty
  all_goals
    cases cs with
    | nil => exact absurd rfl hempty
    | cons c ds =>
      refine ⟨c, ds, rfl, ?_⟩
      by_contra hc
      apply hempty
      have hzero : c ≠ '0' := by
        rintro rfl
        exact hc rfl
      unfold spanInteger
      split
      · next heq => exact absurd (List.cons.inj heq).1 hzero
      · rw [spanDigits, List.takeWhile_cons_of_neg hc]
        rfl

lemma scanNumber_cons {c : Char} (hc : c ≠ '-') (ds : List Char) :
    scanNumber python (c :: ds) = scanUnsigned python [] (c :: ds) := by
  unfold scanNumber
  split
  · next heq => exact absurd (List.cons.inj heq).1 hc
  · rfl

/-- A number begins with a digit, or with a sign and a digit. -/
lemma scanNumber_head {x : Json} {tail : List Char}
    (hscan : scanNumber python cs = .ok (x, tail)) : ∃ c ds, c.isDigit = true ∧
      (cs = c :: ds ∧ scanUnsigned python [] cs = .ok (x, tail) ∨
        cs = '-' :: c :: ds ∧ scanUnsigned python ['-'] (c :: ds) = .ok (x, tail)) := by
  unfold scanNumber at hscan
  split at hscan
  · obtain ⟨c, ds, rfl, hc⟩ := scanUnsigned_head hscan
    exact ⟨c, ds, hc, .inr ⟨rfl, hscan⟩⟩
  · obtain ⟨c, ds, rfl, hc⟩ := scanUnsigned_head hscan
    exact ⟨c, ds, hc, .inl ⟨rfl, hscan⟩⟩

lemma scanNumber_stops (h : Stops rest) {x : Json} {tail : List Char}
    (hscan : scanNumber python cs = .ok (x, tail)) :
    scanNumber python (cs ++ rest) = .ok (x, tail ++ rest) := by
  rw [scanNumber_append h.endsNumber, hscan, leaving_ok]

/-- Where a number stands, a value is read as that number. -/
lemma scanValue_number {nested : Option (List Char → Except DecodeError (Read Json))} {x : Json}
    {tail : List Char} (hscan : scanNumber python cs = .ok (x, tail)) :
    scanValue python nested cs = .ok (x, tail) := by
  have hhead : ∀ c ds, cs = c :: ds → c.isDigit = true ∨
      c = '-' ∧ ∃ d es, ds = d :: es ∧ d.isDigit = true := by
    obtain ⟨c, ds, hc, ⟨rfl, -⟩ | ⟨rfl, -⟩⟩ := scanNumber_head hscan
    · rintro _ _ ⟨⟩
      exact .inl hc
    · rintro _ _ ⟨⟩
      exact .inr ⟨rfl, c, ds, rfl, hc⟩
  unfold scanValue
  split
  · exact absurd (hhead _ _ rfl) (by simp)
  · exact absurd (hhead _ _ rfl) (by simp)
  · exact absurd (hhead _ _ rfl) (by simp)
  · exact absurd (hhead _ _ rfl) (by simp)
  · exact absurd (hhead _ _ rfl) (by simp)
  · exact absurd (hhead _ _ rfl) (by simp)
  · exact absurd (hhead _ _ rfl) (by simp)
  · exact absurd (hhead _ _ rfl) (by simp)
  · exact absurd (hhead _ _ rfl) (by simp)
  · exact hscan

/-- The digits of a natural number do not begin with a zero, unless it is zero. -/
lemma head?_toDigits {k : ℕ} (h : 0 < k) : (Nat.toDigits 10 k).head? ≠ some '0' := by
  induction k using Nat.strongRecOn with
  | ind k ih =>
    by_cases hk : k < 10
    · have hsmall : ∀ k < 10, 0 < k → [k.digitChar].head? ≠ some '0' := by decide
      rw [Nat.toDigits_of_lt_base hk]
      exact hsmall k hk h
    · rw [Nat.toDigits_of_base_le (by decide) (Nat.le_of_not_lt hk), List.head?_append,
        Option.or_of_isSome]
      · exact ih _ (by omega) (by omega)
      · rw [List.isSome_head?]
        exact Nat.toDigits_ne_nil

lemma spanDigits_toDigits (k : ℕ) : spanDigits (Nat.toDigits 10 k) = (Nat.toDigits 10 k, []) := by
  have hall : ∀ c ∈ Nat.toDigits 10 k, c.isDigit = true := fun c hc => isDigit_of_mem hc
  rw [spanDigits, List.takeWhile_eq_self_iff.mpr hall, List.dropWhile_eq_nil_iff.mpr hall]

lemma spanInteger_toDigits (k : ℕ) :
    spanInteger (Nat.toDigits 10 k) = (Nat.toDigits 10 k, []) := by
  unfold spanInteger
  split
  · next cs heq =>
    obtain rfl : k = 0 := by
      by_contra hk
      exact head?_toDigits (Nat.pos_of_ne_zero hk) (by rw [heq]; rfl)
    obtain rfl : [] = cs := (List.cons.inj heq).2
    rfl
  · exact spanDigits_toDigits k

lemma ofDigits_toDigits (k : ℕ) : ofDigits (Nat.toDigits 10 k) = k := by
  have hfold : ofDigits (Nat.toDigits 10 k) = Nat.ofDigitChars 10 (Nat.toDigits 10 k) 0 := by
    rw [ofDigits, Nat.ofDigitChars_eq_foldl]
    congr 1
    funext n c
    rw [Nat.mul_comm]
    rfl
  rw [hfold, Nat.ofDigitChars_ten_toDigits]

lemma scanUnsigned_toDigits (sign : List Char) {k : ℕ}
    (hdigits : (Nat.toDigits 10 k).length ≤ python.maxDigits) :
    scanUnsigned python sign (Nat.toDigits 10 k) =
      .ok (.int (if sign.isEmpty then k else -k), []) := by
  have hne : (Nat.toDigits 10 k).isEmpty = false := by
    rw [List.isEmpty_eq_false_iff]
    exact Nat.toDigits_ne_nil
  simp only [scanUnsigned, spanInteger_toDigits, ofDigits_toDigits, hne]
  rw [if_neg (by decide), if_neg (by decide), if_neg (Nat.not_lt.mpr hdigits)]
  rfl

lemma scanNumber_int {n : ℤ} (hdigits : (Nat.toDigits 10 n.natAbs).length ≤ python.maxDigits) :
    scanNumber python (toString n).toList = .ok (.int n, []) := by
  rw [toList_toString_int]
  split_ifs with hn
  · obtain ⟨k, rfl⟩ := Int.eq_ofNat_of_zero_le hn
    have hscan := scanUnsigned_toDigits [] hdigits
    obtain ⟨c, ds, hcons, hc⟩ := scanUnsigned_head hscan
    have hne : c ≠ '-' := by
      rintro rfl
      cases hc
    rw [Int.toNat_natCast]
    rw [Int.natAbs_natCast] at hscan hcons
    rw [hcons, scanNumber_cons hne, ← hcons, hscan]
    rfl
  · have habs : (-n).toNat = n.natAbs := by omega
    rw [habs]
    show scanUnsigned python ['-'] (Nat.toDigits 10 n.natAbs) = _
    rw [scanUnsigned_toDigits ['-'] hdigits]
    simp only [List.isEmpty_cons, Bool.false_eq_true, if_false]
    congr 3
    omega

end Numbers

/-! ### Values -/

section Values

variable {python : Interpreter} {x : Json} {rest : List Char}

/-- The characters that stand between values, or close what they are in. -/
def isGap (c : Char) : Bool := c ∈ [' ', '\t', '\n', '\r', ']', '\x7d']

lemma isGap_eq_false_of_isDigit {c : Char} (h : c.isDigit = true) : isGap c = false := by
  rw [isGap, decide_eq_false_iff_not]
  intro hmem
  have hdigit : ∀ d ∈ [' ', '\t', '\n', '\r', ']', '\x7d'], d.isDigit = false := by decide
  rw [hdigit c hmem] at h
  cases h

lemma scanNumber_gap {cs tail : List Char} (hscan : scanNumber python cs = .ok (x, tail)) :
    ∃ c ds, cs = c :: ds ∧ isGap c = false := by
  obtain ⟨c, ds, hc, ⟨rfl, -⟩ | ⟨rfl, -⟩⟩ := scanNumber_head hscan
  · exact ⟨c, ds, rfl, isGap_eq_false_of_isDigit hc⟩
  · exact ⟨'-', c :: ds, rfl, rfl⟩

/-- What a value is written as does not begin with a gap. -/
lemma IsData.exists_cons (h : IsData python x) (hdigits : digits x ≤ python.maxDigits) :
    ∃ c cs, compact x = c :: cs ∧ isGap c = false := by
  cases h with
  | null => exact ⟨'n', _, rfl, rfl⟩
  | bool b =>
    cases b
    · exact ⟨'f', _, rfl, rfl⟩
    · exact ⟨'t', _, rfl, rfl⟩
  | int n => exact scanNumber_gap (scanNumber_int hdigits)
  | float hread => exact scanNumber_gap hread
  | str s => exact ⟨'"', _, rfl, rfl⟩
  | list h => exact ⟨'[', _, rfl, rfl⟩
  | obj hkeys h => exact ⟨'\x7b', _, rfl, rfl⟩

lemma skipSpace_of_not_gap {c : Char} (h : isGap c = false) (cs : List Char) :
    skipSpace (c :: cs) = c :: cs := by
  rw [skipSpace, List.dropWhile_cons_of_neg]
  intro hspace
  have hmem : c ∈ [' ', '\t', '\n', '\r', ']', '\x7d'] := by
    simp only [Bool.or_eq_true, decide_eq_true_eq] at hspace
    simp only [List.mem_cons]
    tauto
  rw [isGap, decide_eq_true hmem] at h
  cases h

/-- The element reads what the values are written as. -/
def ReadsBack (element : List Char → Except DecodeError (Read Json)) (x : Json) : Prop :=
  (∃ c cs, compact x = c :: cs ∧ isGap c = false) ∧
    ∀ rest, Stops rest → element (compact x ++ rest) = .ok (x, rest)

lemma ReadsBack.skipSpace {element : List Char → Except DecodeError (Read Json)}
    (h : ReadsBack element x) (rest : List Char) :
    skipSpace (compact x ++ rest) = compact x ++ rest := by
  obtain ⟨⟨c, cs, hcons, hgap⟩, -⟩ := h
  rw [hcons, List.cons_append, skipSpace_of_not_gap hgap]

lemma stops_cons {c : Char} (h : c ∈ [',', ']', '\x7d']) (rest : List Char) : Stops (c :: rest) := by
  rintro d ⟨⟩
  exact h

lemma scanElements_compact {element : List Char → Except DecodeError (Read Json)}
    {xs : List Json} (hne : xs ≠ []) (h : ∀ x ∈ xs, ReadsBack element x) (rest : List Char)
    {fuel : ℕ} (hfuel : xs.length ≤ fuel) :
    scanElements element fuel ([','].intercalate (xs.map compact) ++ ']' :: rest) =
      .ok (xs, rest) := by
  induction xs generalizing fuel with
  | nil => exact absurd rfl hne
  | cons x xs ih =>
    obtain ⟨fuel, rfl⟩ : ∃ k, fuel = k + 1 := ⟨fuel - 1, by simp at hfuel; omega⟩
    have hx := h x List.mem_cons_self
    cases xs with
    | nil =>
      have htext : [','].intercalate ([x].map compact) ++ ']' :: rest =
          compact x ++ ']' :: rest := by
        simp [List.intercalate]
      rw [htext, scanElements, hx.skipSpace, hx.2 _ (stops_cons (by decide) rest)]
      rfl
    | cons y ys =>
      have htext : [','].intercalate ((x :: y :: ys).map compact) ++ ']' :: rest =
          compact x ++ ',' :: ([','].intercalate ((y :: ys).map compact) ++ ']' :: rest) := by
        simp [List.intercalate]
      have hys := ih (List.cons_ne_nil y ys) (fun z hz => h z (List.mem_cons_of_mem x hz))
        (Nat.le_of_succ_le_succ hfuel)
      rw [htext, scanElements, hx.skipSpace, hx.2 _ (stops_cons (by decide) _)]
      show (scanElements element fuel ([','].intercalate ((y :: ys).map compact) ++ ']' :: rest) >>=
        fun read => .ok (x :: read.1, read.2) : Except DecodeError (Read (List Json))) = _
      rw [hys]
      rfl

lemma scanKey_cons (cs : List Char) : scanKey ('"' :: cs) = (scanString cs >>= fun read =>
    match Json.skipSpace read.2 with
      | ':' :: cs => .ok (read.1, cs)
      | _ => .error .jsonDecodeError : Except DecodeError (Read String)) := by
  rw [scanKey, skipSpace_of_not_gap (by decide)]
  rfl

lemma scanMembers_succ (element : List Char → Except DecodeError (Read Json)) (fuel : ℕ) (d : Dict)
    (cs : List Char) : scanMembers element (fuel + 1) d cs = (scanKey cs >>= fun key =>
    element (Json.skipSpace key.2) >>= fun read => match Json.skipSpace read.2 with
      | '\x7d' :: cs => .ok (d.set key.1 read.1, cs)
      | ',' :: cs => scanMembers element fuel (d.set key.1 read.1) cs
      | _ => .error .jsonDecodeError : Except DecodeError (Read Dict)) := rfl

lemma scanKey_quoted (key : String) (cs : List Char) :
    scanKey (quoteChars key ++ ':' :: cs) = .ok (key, cs) := by
  have htext : quoteChars key ++ ':' :: cs =
      '"' :: (key.toList.flatMap escapeChar ++ '"' :: ':' :: cs) := by
    simp [quoteChars]
  rw [htext, scanKey_cons, scanString_quoted]
  rfl

lemma set_of_notMem {d : Dict} {key : String} (h : key ∉ d.map Prod.fst) (value : Json) :
    d.set key value = d ++ [(key, value)] := by
  induction d with
  | nil => rfl
  | cons field d ih =>
    obtain ⟨name, old⟩ := field
    obtain ⟨hne, hd⟩ := not_or.mp (List.mem_cons.not.mp h)
    rw [Dict.set, if_neg (Ne.symm hne), ih hd, List.cons_append]

lemma scanMembers_compact {element : List Char → Except DecodeError (Read Json)} {d fields : Dict}
    (hne : fields ≠ []) (hkeys : ((d ++ fields).map Prod.fst).Nodup)
    (h : ∀ field ∈ fields, ReadsBack element field.2) (rest : List Char) {fuel : ℕ}
    (hfuel : fields.length ≤ fuel) :
    scanMembers element fuel d ([','].intercalate (fields.map member) ++ '\x7d' :: rest) =
      .ok (d ++ fields, rest) := by
  induction fields generalizing fuel d with
  | nil => exact absurd rfl hne
  | cons field fields ih =>
    obtain ⟨key, x⟩ := field
    obtain ⟨fuel, rfl⟩ : ∃ k, fuel = k + 1 := ⟨fuel - 1, by simp at hfuel; omega⟩
    have hx := h (key, x) List.mem_cons_self
    have hset : d.set key x = d ++ [(key, x)] := by
      apply set_of_notMem
      intro hmem
      rw [List.map_append, List.nodup_append] at hkeys
      exact hkeys.2.2 key hmem key (by simp) rfl
    cases fields with
    | nil =>
      have htext : [','].intercalate ([(key, x)].map member) ++ '\x7d' :: rest =
          quoteChars key ++ ':' :: (compact x ++ '\x7d' :: rest) := by
        simp [member]
      rw [htext, scanMembers_succ, scanKey_quoted]
      show (element (Json.skipSpace _) >>= _) = _
      rw [hx.skipSpace, hx.2 _ (stops_cons (by decide) rest), ← hset]
      rfl
    | cons other fields =>
      have htext : [','].intercalate (((key, x) :: other :: fields).map member) ++ '\x7d' :: rest =
          quoteChars key ++ ':' :: (compact x ++
            ',' :: ([','].intercalate ((other :: fields).map member) ++ '\x7d' :: rest)) := by
        simp [member]
      have hrest := ih (d := d ++ [(key, x)]) (List.cons_ne_nil other fields)
        (by simpa using hkeys) (fun field hfield => h field (List.mem_cons_of_mem _ hfield))
        (Nat.le_of_succ_le_succ hfuel)
      rw [htext, scanMembers_succ, scanKey_quoted]
      show (element (Json.skipSpace _) >>= _) = _
      rw [hx.skipSpace, hx.2 _ (stops_cons (by decide) _)]
      show scanMembers element fuel (d.set key x)
        ([','].intercalate ((other :: fields).map member) ++ '\x7d' :: rest) = _
      rw [hset, hrest, List.append_assoc]
      rfl

lemma length_le_intercalate (texts : List (List Char)) :
    texts.length ≤ ([','].intercalate texts).length + 1 := by
  induction texts with
  | nil => simp
  | cons text texts ih =>
    cases texts with
    | nil => simp
    | cons other texts =>
      rw [List.intercalate_cons_cons, List.length_append, List.length_append]
      simp only [List.length_cons, List.length_nil] at ih ⊢
      omega

lemma exists_intercalate_cons (text : List Char) (texts : List (List Char)) :
    ∃ more, [','].intercalate (text :: texts) = text ++ more := by
  cases texts with
  | nil => exact ⟨[], by rw [List.intercalate_singleton, List.append_nil]⟩
  | cons other texts => exact ⟨_, by rw [List.intercalate_cons_cons, List.append_assoc]⟩

lemma scanArray_compact {element : List Char → Except DecodeError (Read Json)} {xs : List Json}
    (h : ∀ x ∈ xs, ReadsBack element x) (rest : List Char) :
    scanArray element ([','].intercalate (xs.map compact) ++ ']' :: rest) =
      .ok (.list xs, rest) := by
  cases xs with
  | nil => rfl
  | cons x xs =>
    have hlength : (x :: xs).length ≤
        ([','].intercalate ((x :: xs).map compact) ++ ']' :: rest).length + 1 := by
      have hle := length_le_intercalate ((x :: xs).map compact)
      rw [List.length_map] at hle
      rw [List.length_append]
      omega
    have hscan := scanElements_compact (List.cons_ne_nil x xs) h rest hlength
    obtain ⟨⟨c, cs, hcons, hgap⟩, -⟩ := h x List.mem_cons_self
    obtain ⟨more, hmore⟩ := exists_intercalate_cons (compact x) (xs.map compact)
    have htext : [','].intercalate ((x :: xs).map compact) ++ ']' :: rest =
        c :: (cs ++ more ++ ']' :: rest) := by
      rw [List.map_cons, hmore, hcons]
      simp
    rw [htext] at hscan ⊢
    have hne : c ≠ ']' := by
      rintro rfl
      cases hgap
    unfold scanArray
    rw [skipSpace_of_not_gap hgap]
    split
    · next heq => exact absurd (List.cons.inj heq).1 hne
    · rw [hscan]
      rfl

lemma scanObject_compact {element : List Char → Except DecodeError (Read Json)} {fields : Dict}
    (hkeys : (fields.map Prod.fst).Nodup) (h : ∀ field ∈ fields, ReadsBack element field.2)
    (rest : List Char) :
    scanObject element ([','].intercalate (fields.map member) ++ '\x7d' :: rest) =
      .ok (.obj fields, rest) := by
  cases fields with
  | nil => rfl
  | cons field fields =>
    have hlength : (field :: fields).length ≤
        ([','].intercalate ((field :: fields).map member) ++ '\x7d' :: rest).length + 1 := by
      have hle := length_le_intercalate ((field :: fields).map member)
      rw [List.length_map] at hle
      rw [List.length_append]
      omega
    have hscan := scanMembers_compact (d := []) (List.cons_ne_nil field fields) hkeys h rest hlength
    obtain ⟨more, hmore⟩ := exists_intercalate_cons (member field) (fields.map member)
    have htext : [','].intercalate ((field :: fields).map member) ++ '\x7d' :: rest =
        '"' :: (field.1.toList.flatMap escapeChar ++ '"' :: ':' :: compact field.2 ++ more ++
          '\x7d' :: rest) := by
      rw [List.map_cons, hmore, member, quoteChars]
      simp
    rw [htext] at hscan ⊢
    unfold scanObject
    rw [skipSpace_of_not_gap (by decide)]
    split
    · next heq => exact absurd (List.cons.inj heq).1 (by decide)
    · rw [hscan]
      rfl

lemma exists_scanOnce (python : Interpreter) (n : ℕ) :
    ∃ nested, scanOnce python n = scanValue python nested := by
  cases n with
  | zero => exact ⟨none, rfl⟩
  | succ n => exact ⟨_, rfl⟩

/-- What a value is written as is read back, where containers may be nested as deep as it has
them. -/
lemma readsBack (h : IsData python x) (hdigits : digits x ≤ python.maxDigits) {n : ℕ}
    (hdepth : depth x ≤ n) : ReadsBack (scanOnce python n) x := by
  refine ⟨h.exists_cons hdigits, ?_⟩
  obtain ⟨nested, hnested⟩ := exists_scanOnce python n
  induction h generalizing n nested with
  | null =>
    intro rest hrest
    rw [hnested]
    rfl
  | bool b =>
    intro rest hrest
    rw [hnested]
    cases b
    · rfl
    · rfl
  | int k =>
    intro rest hrest
    rw [hnested]
    exact scanValue_number (scanNumber_stops hrest (scanNumber_int hdigits))
  | float hread =>
    intro rest hrest
    rw [hnested]
    exact scanValue_number (scanNumber_stops hrest hread)
  | str s =>
    intro rest hrest
    have htext : compact (.str s) ++ rest =
        '"' :: (s.toList.flatMap escapeChar ++ '"' :: rest) := by
      simp [compact, quoteChars]
    rw [hnested, htext, scanValue, scanString_quoted]
    rfl
  | @list xs h ih =>
    intro rest hrest
    obtain ⟨m, rfl⟩ : ∃ m, n = m + 1 := ⟨n - 1, by rw [depth] at hdepth; omega⟩
    have hread : ∀ x ∈ xs, ReadsBack (scanOnce python m) x := by
      intro x hx
      have hx' := (digits_le_digitsList hx).trans hdigits
      have hm : depth x ≤ m := (depth_le_depthList hx).trans (Nat.le_of_succ_le_succ hdepth)
      obtain ⟨nested', hnested'⟩ := exists_scanOnce python m
      exact ⟨(h x hx).exists_cons hx', ih x hx hx' hm nested' hnested'⟩
    have htext : compact (.list xs) ++ rest =
        '[' :: ([','].intercalate (xs.map compact) ++ ']' :: rest) := by
      simp [compact, compactList_eq]
    rw [htext]
    exact scanArray_compact hread rest
  | @obj fields hkeys h ih =>
    intro rest hrest
    obtain ⟨m, rfl⟩ : ∃ m, n = m + 1 := ⟨n - 1, by rw [depth] at hdepth; omega⟩
    have hread : ∀ field ∈ fields, ReadsBack (scanOnce python m) field.2 := by
      intro field hfield
      have hx' := (digits_le_digitsFields hfield).trans hdigits
      have hm : depth field.2 ≤ m :=
        (depth_le_depthFields hfield).trans (Nat.le_of_succ_le_succ hdepth)
      obtain ⟨nested', hnested'⟩ := exists_scanOnce python m
      exact ⟨(h field hfield).exists_cons hx', ih field hfield hx' hm nested' hnested'⟩
    have htext : compact (.obj fields) ++ rest =
        '\x7b' :: ([','].intercalate (fields.map member) ++ '\x7d' :: rest) := by
      simp [compact, compactFields_eq]
    rw [htext]
    exact scanObject_compact hkeys hread rest

end Values

/-! ### The characters of the text -/

section Plain

variable {python : Interpreter} {x : Json} {cs : List Char}

/-- A printable character of ASCII. -/
def IsPlain (c : Char) : Prop := 0x20 ≤ c.toNat ∧ c.toNat < 0x7f

instance (c : Char) : Decidable (IsPlain c) := inferInstanceAs (Decidable (_ ∧ _))

lemma isPlain_of_isDigit {c : Char} (h : c.isDigit = true) : IsPlain c := by
  rw [Char.isDigit, Bool.and_eq_true, decide_eq_true_eq, decide_eq_true_eq] at h
  have hlow : 0x30 ≤ c.toNat := UInt32.le_iff_toNat_le.mp h.1
  have hhigh : c.toNat ≤ 0x39 := UInt32.le_iff_toNat_le.mp h.2
  exact ⟨by omega, by omega⟩

lemma isPlain_hexDigits {width n : ℕ} : ∀ c ∈ hexDigits width n, IsPlain c := by
  induction width generalizing n with
  | zero => simp [hexDigits]
  | succ width ih =>
    have hdigit : ∀ d < 16, IsPlain (Nat.digitChar d) := by decide
    intro c hc
    obtain hc | hc := List.mem_append.mp hc
    · exact ih c hc
    · rw [List.mem_singleton.mp hc]
      exact hdigit _ (Nat.mod_lt n (by decide))

lemma isPlain_escapeChar (c : Char) : ∀ d ∈ escapeChar c, IsPlain d := by
  have hunit : ∀ n, ∀ d ∈ '\\' :: 'u' :: hexDigits 4 n, IsPlain d := by
    intro n
    rw [List.forall_mem_cons, List.forall_mem_cons]
    exact ⟨by decide, by decide, isPlain_hexDigits⟩
  unfold escapeChar
  split_ifs with h₁ h₂ h₃ h₄ h₅ h₆ h₇ h₈ h₉
  · decide
  · decide
  · decide
  · decide
  · decide
  · decide
  · decide
  · simp only [Bool.and_eq_true, decide_eq_true_eq] at h₈
    rw [List.forall_mem_singleton]
    exact ⟨h₈.1, by omega⟩
  · exact hunit _
  · intro d hd
    obtain hd | hd := List.mem_append.mp hd
    · exact hunit _ d hd
    · exact hunit _ d hd

lemma isPlain_quoteChars (s : String) : ∀ c ∈ quoteChars s, IsPlain c := by
  rw [quoteChars, List.forall_mem_cons, List.forall_mem_append, List.forall_mem_singleton]
  refine ⟨by decide, ?_, by decide⟩
  intro c hc
  obtain ⟨d, -, hd⟩ := List.mem_flatMap.mp hc
  exact isPlain_escapeChar d c hd

/-- A first part of a text that is plain, and what is left. -/
def SpansPlain (span : List Char × List Char) (cs : List Char) : Prop :=
  span.1 ++ span.2 = cs ∧ ∀ c ∈ span.1, IsPlain c

lemma spansPlain_nil (cs : List Char) : SpansPlain ([], cs) cs := ⟨rfl, by simp⟩

lemma spansPlain_digits (cs : List Char) : SpansPlain (spanDigits cs) cs :=
  ⟨List.takeWhile_append_dropWhile, fun _ hc => isPlain_of_isDigit (List.mem_takeWhile_imp hc)⟩

lemma SpansPlain.cons {span : List Char × List Char} {c : Char} (h : SpansPlain span cs)
    (hc : IsPlain c) : SpansPlain (c :: span.1, span.2) (c :: cs) :=
  ⟨congrArg (c :: ·) h.1, List.forall_mem_cons.mpr ⟨hc, h.2⟩⟩

lemma SpansPlain.append {span span' : List Char × List Char} (h : SpansPlain span cs)
    (h' : SpansPlain span' span.2) : SpansPlain (span.1 ++ span'.1, span'.2) cs := by
  refine ⟨?_, List.forall_mem_append.mpr ⟨h.2, h'.2⟩⟩
  rw [List.append_assoc, h'.1, h.1]

lemma spansPlain_integer (cs : List Char) : SpansPlain (spanInteger cs) cs := by
  unfold spanInteger
  split
  · next cs => exact (spansPlain_nil cs).cons (by decide)
  · exact spansPlain_digits _

lemma spansPlain_fraction (cs : List Char) : SpansPlain (spanFraction cs) cs := by
  unfold spanFraction
  split
  · next cs =>
    dsimp only
    split_ifs
    · exact spansPlain_nil _
    · exact (spansPlain_digits cs).cons (by decide)
  · exact spansPlain_nil _

lemma spansPlain_sign (cs : List Char) : SpansPlain (spanSign cs) cs := by
  unfold spanSign
  split
  · next cs => exact (spansPlain_nil cs).cons (by decide)
  · next cs => exact (spansPlain_nil cs).cons (by decide)
  · exact spansPlain_nil _

lemma spansPlain_exponent (cs : List Char) : SpansPlain (spanExponent cs) cs := by
  cases cs with
  | nil => exact spansPlain_nil []
  | cons e cs =>
    rw [spanExponent_cons]
    split_ifs with hletter
    · exact spansPlain_nil _
    · have he : IsPlain e := by
        obtain rfl | rfl := hletter
        · decide
        · decide
      exact ((spansPlain_sign cs).append (spansPlain_digits _)).cons he
    · exact spansPlain_nil _

lemma isPlain_of_scanUnsigned {sign : List Char} (h : scanUnsigned python sign cs = .ok (x, [])) :
    ∀ c ∈ cs, IsPlain c := by
  obtain ⟨hinteger, hplain⟩ := spansPlain_integer cs
  obtain ⟨hfraction, hplain'⟩ := spansPlain_fraction (spanInteger cs).2
  obtain ⟨hexponent, hplain''⟩ := spansPlain_exponent (spanFraction (spanInteger cs).2).2
  have hrest : (spanExponent (spanFraction (spanInteger cs).2).2).2 = [] := by
    unfold scanUnsigned at h
    simp only at h
    split_ifs at h
    · exact (Prod.mk.inj (Except.ok.inj h)).2
    · exact (Prod.mk.inj (Except.ok.inj h)).2
    · exact (Prod.mk.inj (Except.ok.inj h)).2
  rw [hrest, List.append_nil] at hexponent
  rw [← hinteger, ← hfraction, ← hexponent]
  simp only [List.forall_mem_append]
  exact ⟨hplain, hplain', hplain''⟩

lemma isPlain_of_scanNumber (h : scanNumber python cs = .ok (x, [])) : ∀ c ∈ cs, IsPlain c := by
  obtain ⟨c, ds, -, ⟨rfl, hunsigned⟩ | ⟨rfl, hunsigned⟩⟩ := scanNumber_head h
  · exact isPlain_of_scanUnsigned hunsigned
  · exact List.forall_mem_cons.mpr ⟨by decide, isPlain_of_scanUnsigned hunsigned⟩

lemma isPlain_intercalate {texts : List (List Char)} (h : ∀ text ∈ texts, ∀ c ∈ text, IsPlain c) :
    ∀ c ∈ [','].intercalate texts, IsPlain c := by
  induction texts with
  | nil => simp
  | cons text texts ih =>
    obtain ⟨htext, htexts⟩ := List.forall_mem_cons.mp h
    cases texts with
    | nil => rwa [List.intercalate_singleton]
    | cons other texts =>
      simp only [List.intercalate_cons_cons, List.forall_mem_append, List.forall_mem_singleton]
      exact ⟨⟨htext, by decide⟩, ih htexts⟩

/-- What is written of a value is plain. -/
lemma IsData.isPlain (h : IsData python x) : ∀ c ∈ compact x, IsPlain c := by
  induction h with
  | null => decide
  | bool b =>
    cases b
    · decide
    · decide
  | int n =>
    intro c hc
    obtain hdigit | rfl := mem_toString_int hc
    · exact isPlain_of_isDigit hdigit
    · decide
  | float hread => exact isPlain_of_scanNumber hread
  | str s => exact isPlain_quoteChars s
  | list h ih =>
    rw [compact, List.forall_mem_cons, List.forall_mem_append, List.forall_mem_singleton,
      compactList_eq]
    refine ⟨by decide, isPlain_intercalate ?_, by decide⟩
    rw [List.forall_mem_map]
    exact ih
  | obj hkeys h ih =>
    rw [compact, List.forall_mem_cons, List.forall_mem_append, List.forall_mem_singleton,
      compactFields_eq]
    refine ⟨by decide, isPlain_intercalate ?_, by decide⟩
    rw [List.forall_mem_map]
    intro field hfield
    rw [member, List.forall_mem_append, List.forall_mem_cons]
    exact ⟨isPlain_quoteChars _, by decide, ih field hfield⟩

end Plain

/-- What is written of a value is read back as the value. -/
theorem loads_encode {python : Interpreter} {x : Json} {text : String} (h : IsData python x)
    (hencode : encode python x = .ok text) : loads python text = .ok x := by
  unfold encode at hencode
  split_ifs at hencode with hdepth hdigits
  obtain rfl := Except.ok.inj hencode
  obtain ⟨⟨c, cs, hcons, hgap⟩, hscan⟩ :=
    readsBack h (Nat.le_of_not_lt hdigits) (Nat.le_of_not_lt hdepth)
  have hread := hscan [] (by rintro c ⟨⟩)
  rw [List.append_nil] at hread
  rw [loads, String.toList_ofList, hcons, skipSpace_of_not_gap hgap, ← hcons, hread]
  rfl

end Json
end AiHq
