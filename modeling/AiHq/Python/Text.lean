import AiHq.Python.Values

/-!
# Texts

Stripping, lines, and the numbers and encodings that texts are checked for.
-/

namespace AiHq

/-! ### Stripping -/

lemma stripChars_eq (cs : List Char) :
    stripChars cs = (cs.dropWhile isSpace).rdropWhile isSpace := rfl

/-- Nothing is stripped from a text with no space at either end. -/
lemma stripChars_eq_self {cs : List Char} (hhead : ∀ c ∈ cs.head?, isSpace c = false)
    (hlast : ∀ c ∈ cs.getLast?, isSpace c = false) : stripChars cs = cs := by
  have hdrop : cs.dropWhile isSpace = cs := by
    cases cs with
    | nil => rfl
    | cons c cs => rw [List.dropWhile_cons_of_neg (by simp [hhead c rfl])]
  rw [stripChars_eq, hdrop, List.rdropWhile_eq_self_iff]
  intro hne
  rw [hlast _ (List.getLast?_eq_some_getLast hne)]
  decide

lemma head?_stripChars (cs : List Char) : ∀ c ∈ (stripChars cs).head?, isSpace c = false := by
  intro c hc
  obtain ⟨t, ht⟩ : ∃ t, stripChars cs = c :: t := by
    cases h : stripChars cs with
    | nil => simp [h] at hc
    | cons d t =>
      obtain rfl : d = c := by simpa [h] using hc
      exact ⟨t, rfl⟩
  obtain ⟨u, hu⟩ : stripChars cs <+: cs.dropWhile isSpace := List.rdropWhile_prefix _ _
  have hhead := List.head?_dropWhile_not isSpace cs
  rw [← hu, ht] at hhead
  simpa using hhead

lemma getLast?_stripChars (cs : List Char) :
    ∀ c ∈ (stripChars cs).getLast?, isSpace c = false := by
  intro c hc
  have hne : stripChars cs ≠ [] := by
    rintro h
    simp [h] at hc
  obtain rfl : (stripChars cs).getLast hne = c := by
    simpa [List.getLast?_eq_some_getLast hne] using hc
  exact Bool.not_eq_true _ ▸ List.rdropWhile_last_not isSpace (cs.dropWhile isSpace) hne

@[simp] lemma strip_strip (s : String) : strip (strip s) = strip s := by
  rw [strip, strip, String.toList_ofList,
    stripChars_eq_self (head?_stripChars _) (getLast?_stripChars _)]

/-! ### Lines -/

/-- The characters that end a line for `str.splitlines`. -/
def isLineEnd (c : Char) : Bool :=
  c.toNat ∈ [0xa, 0xb, 0xc, 0xd, 0x1c, 0x1d, 0x1e, 0x85, 0x2028, 0x2029]

/-- The lines with their ends, where `line` has been read of the first, in reverse. -/
def linesFrom : List Char → List Char → List (List Char)
  | [], [] => []
  | line, [] => [line.reverse]
  | line, '\r' :: '\n' :: cs => ('\n' :: '\r' :: line).reverse :: linesFrom [] cs
  | line, c :: cs =>
    if isLineEnd c then (c :: line).reverse :: linesFrom [] cs else linesFrom (c :: line) cs

/-- `s.splitlines(keepends=True)` -/
def splitLines (s : String) : List String := (linesFrom [] s.toList).map String.ofList

lemma flatten_linesFrom (line cs : List Char) :
    (linesFrom line cs).flatten = line.reverse ++ cs := by
  fun_induction linesFrom line cs with
  | case1 => rfl
  | case2 line => simp
  | case3 line cs ih => simp [ih]
  | case4 line c cs hcrlf hend ih => simp [ih]
  | case5 line c cs hcrlf hend ih => simp [ih]

/-- A text is its lines. -/
lemma splitLines_inj {s t : String} (h : splitLines s = splitLines t) : s = t := by
  have hlines : linesFrom [] s.toList = linesFrom [] t.toList := by
    have := congrArg (List.map String.toList) h
    simpa [splitLines, Function.comp_def] using this
  have hflat := congrArg List.flatten hlines
  rw [flatten_linesFrom, flatten_linesFrom] at hflat
  exact String.toList_inj.mp hflat

/-- The line ends of a file that is read as text become newlines. -/
def universalNewlines : List Char → List Char
  | [] => []
  | '\r' :: '\n' :: cs => '\n' :: universalNewlines cs
  | '\r' :: cs => '\n' :: universalNewlines cs
  | c :: cs => c :: universalNewlines cs

/-- `bytes.decode("utf-8")` and then the newlines of a text file; none if it is not UTF-8. -/
def readText (content : ByteArray) : Option String :=
  (String.fromUTF8? content).map fun text => String.ofList (universalNewlines text.toList)

/-- `text.split()` -/
def words (text : String) : List String :=
  ((text.toList.splitOnP isSpace).map String.ofList).filter (· ≠ "")

/-- `text.replace("\\" + c, c)` on the characters of a text. -/
def unescape (c : Char) : List Char → List Char
  | '\\' :: d :: cs => if d = c then c :: unescape c cs else '\\' :: unescape c (d :: cs)
  | d :: cs => d :: unescape c cs
  | [] => []

/-! ### Case -/

/-- The letter that `re.IGNORECASE` compares a character as. -/
def foldCase (c : Char) : Char :=
  if c.toNat = 0x130 ∨ c.toNat = 0x131 then 'i'
  else if c.toNat = 0x17f then 's'
  else if c.toNat = 0x212a then 'k'
  else c.toLower

/-- The case mappings of the interpreter, which follow its Unicode tables. -/
structure CaseMapping where
  casefold : String → String
  upper : String → String
  casefold_ascii : ∀ s, (∀ c ∈ s.toList, c.toNat < 128) →
    casefold s = String.ofList (s.toList.map Char.toLower)
  upper_ascii : ∀ s, (∀ c ∈ s.toList, c.toNat < 128) →
    upper s = String.ofList (s.toList.map Char.toUpper)

/-! ### Enumerations -/

/-- The member of a string enumeration that `Enum(text)` is; a member is the text of its value. -/
def parseMember {α : Type} (enumeration : String) (value : α → String) (members : List α)
    (text : String) : Except PyError α :=
  match members.find? fun member => value member = text with
  | some member => .ok member
  | none => .error (.valueError (String.ofList (Json.reprChars text.toList) ++
    " is not a valid " ++ enumeration))

/-! ### Numbers -/

def isHexDigit (c : Char) : Bool :=
  c.isDigit || ('a' ≤ c && c ≤ 'f') || ('A' ≤ c && c ≤ 'F')

/-- Digits, with an underscore between two of them at most. -/
def areHexDigits : List Char → Bool
  | [] => false
  | [c] => isHexDigit c
  | c :: '_' :: cs => isHexDigit c && areHexDigits cs
  | c :: cs => isHexDigit c && areHexDigits cs

/-- Whether `int(s, 16)` is a number: digits after a sign and a prefix, with spaces around. -/
def isInt16 (s : List Char) : Bool :=
  let unsigned := match stripChars s with
    | '+' :: cs | '-' :: cs => cs
    | cs => cs
  match unsigned with
  | '0' :: x :: '_' :: cs => if x = 'x' ∨ x = 'X' then areHexDigits cs else areHexDigits unsigned
  | '0' :: x :: cs => if x = 'x' ∨ x = 'X' then areHexDigits cs else areHexDigits unsigned
  | _ => areHexDigits unsigned

/-- `re.fullmatch("[0-9a-f]{n}", s)` -/
def isLowerHex (n : ℕ) (s : List Char) : Bool :=
  s.length = n && s.all fun c => c.isDigit || ('a' ≤ c && c ≤ 'f')

lemma lowerHex_of_mem {n : ℕ} {cs : List Char} (h : isLowerHex n cs = true) {c : Char}
    (hc : c ∈ cs) : (0x30 ≤ c.toNat ∧ c.toNat ≤ 0x39) ∨ (0x61 ≤ c.toNat ∧ c.toNat ≤ 0x66) := by
  obtain ⟨-, hall⟩ := Bool.and_eq_true_iff.mp h
  simpa [Char.isDigit, Char.le_def, UInt32.le_iff_toNat_le] using List.all_eq_true.mp hall c hc

lemma isSpace_eq_false {c : Char} (h : 0x21 ≤ c.toNat) (h' : c.toNat ≤ 0x7e) :
    isSpace c = false := by
  simp only [isSpace, List.mem_cons, List.not_mem_nil, or_false, Bool.or_eq_false_iff,
    decide_eq_false_iff_not, Bool.and_eq_false_iff]
  omega

lemma isSpace_of_isLowerHex {n : ℕ} {cs : List Char} (h : isLowerHex n cs = true) {c : Char}
    (hc : c ∈ cs) : isSpace c = false := by
  rcases lowerHex_of_mem h hc with hc | hc
  · exact isSpace_eq_false (by omega) (by omega)
  · exact isSpace_eq_false (by omega) (by omega)

lemma strip_eq_self {s : String} (h : ∀ c ∈ s.toList, isSpace c = false) : strip s = s := by
  rw [strip, stripChars_eq_self, String.ofList_toList]
  · exact fun c hc => h c (List.mem_of_mem_head? hc)
  · exact fun c hc => h c (List.mem_of_getLast? hc)

lemma areHexDigits_of_forall {cs : List Char} (hne : cs ≠ [])
    (h : ∀ c ∈ cs, isHexDigit c = true) : areHexDigits cs = true := by
  fun_induction areHexDigits cs with
  | case1 => exact absurd rfl hne
  | case2 c => exact h c List.mem_cons_self
  | case3 c cs ih => exact absurd (h '_' (by simp)) (by decide)
  | case4 c cs hnot hnil ih =>
    rw [Bool.and_eq_true]
    refine ⟨h c List.mem_cons_self, ih ?_ fun d hd => h d (List.mem_cons_of_mem c hd)⟩
    rintro rfl
    exact hnot rfl

lemma isHexDigit_of_mem {n : ℕ} {cs : List Char} (h : isLowerHex n cs = true) {c : Char}
    (hc : c ∈ cs) : isHexDigit c = true := by
  obtain ⟨-, hall⟩ := Bool.and_eq_true_iff.mp h
  have hdigit := List.all_eq_true.mp hall c hc
  rw [isHexDigit, hdigit, Bool.true_or]

/-- Lowercase digits are a number. -/
lemma isInt16_of_isLowerHex {n : ℕ} {cs : List Char} (h : isLowerHex (n + 1) cs = true) :
    isInt16 cs = true := by
  have hne : cs ≠ [] := by
    rintro rfl
    simp [isLowerHex] at h
  have hstrip : stripChars cs = cs := stripChars_eq_self
    (fun c hc => isSpace_of_isLowerHex h (List.mem_of_mem_head? hc))
    fun c hc => isSpace_of_isLowerHex h (List.mem_of_getLast? hc)
  have hdigits := areHexDigits_of_forall hne fun c hc => isHexDigit_of_mem h hc
  have hnot {d : Char} (hd : isHexDigit d = false) (hmem : d ∈ cs) : False := by
    rw [isHexDigit_of_mem h hmem] at hd
    cases hd
  have hunsigned : (match stripChars cs with | '+' :: ds | '-' :: ds => ds | ds => ds) = cs := by
    rw [hstrip]
    split
    · exact (hnot (by decide) List.mem_cons_self).elim
    · exact (hnot (by decide) List.mem_cons_self).elim
    · rfl
  have hpre {x : Char} {ds : List Char} (hcs : cs = '0' :: x :: ds) : ¬(x = 'x' ∨ x = 'X') := by
    subst hcs
    rintro (rfl | rfl)
    · exact hnot (d := 'x') (by decide) (by simp)
    · exact hnot (d := 'X') (by decide) (by simp)
  fun_cases isInt16 cs with
  | case1 unsigned x ds heq hx => exact absurd hx (hpre (hunsigned.symm.trans heq))
  | case2 | case4 | case5 => exact (congrArg areHexDigits hunsigned).trans hdigits
  | case3 unsigned x ds hds heq hx => exact absurd hx (hpre (hunsigned.symm.trans heq))
/-- The form of `str(uuid)`. -/
def isUuid (s : String) : Bool :=
  match s.toList.splitOn '-' with
  | [a, b, c, d, e] =>
    isLowerHex 8 a && isLowerHex 4 b && isLowerHex 4 c && isLowerHex 4 d && isLowerHex 12 e
  | _ => false

/-- What `str(uuid4())` yields. -/
abbrev Uuid := {s : String // isUuid s = true}

lemma uuid_of_mem {s : String} (h : isUuid s = true) {c : Char} (hc : c ∈ s.toList) :
    c = '-' ∨ (0x30 ≤ c.toNat ∧ c.toNat ≤ 0x39) ∨ (0x61 ≤ c.toNat ∧ c.toNat ≤ 0x66) := by
  unfold isUuid at h
  split at h
  · next a b c' d e hsplit =>
    have hjoin : ['-'].intercalate [a, b, c', d, e] = s.toList := by
      rw [← hsplit, List.intercalate_splitOn]
    simp only [Bool.and_eq_true] at h
    obtain ⟨⟨⟨⟨ha, hb⟩, hc'⟩, hd⟩, he⟩ := h
    rw [← hjoin] at hc
    simp only [List.intercalate, List.intersperse, List.flatten_cons, List.flatten_nil,
      List.mem_append, List.mem_singleton, List.append_nil] at hc
    rcases hc with hc | rfl | hc | rfl | hc | rfl | hc | rfl | hc
    · exact .inr (lowerHex_of_mem ha hc)
    · exact .inl rfl
    · exact .inr (lowerHex_of_mem hb hc)
    · exact .inl rfl
    · exact .inr (lowerHex_of_mem hc' hc)
    · exact .inl rfl
    · exact .inr (lowerHex_of_mem hd hc)
    · exact .inl rfl
    · exact .inr (lowerHex_of_mem he hc)
  · cases h

/-- Nothing is stripped from an identifier. -/
lemma strip_uuid {s : String} (h : isUuid s = true) : strip s = s := by
  refine strip_eq_self fun c hc => ?_
  rcases uuid_of_mem h hc with rfl | hc | hc
  · decide
  · exact isSpace_eq_false (by omega) (by omega)
  · exact isSpace_eq_false (by omega) (by omega)

end AiHq
