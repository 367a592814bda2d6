import AiHq.Python.Text

/-!
# Decoding JSON

`json.loads` of a text, with the exceptions that it raises: besides the error for a text that is
no JSON, the limits of the interpreter on the digits of an integer and on nested containers.
-/

namespace AiHq

/-- The limits of the interpreter, and its `float(text)`: the value and what `repr` gives for it.
Infinities and NaN, of which only their truth is asked, have some value other than zero. -/
structure Interpreter where
  maxDepth : ℕ
  maxDigits : ℕ := 4300
  float : String → ℚ × String

/-- The exceptions of `json.loads`. -/
inductive DecodeError where
  | jsonDecodeError
  | valueError
  | recursionError
  deriving DecidableEq, Repr

def DecodeError.toPyError : DecodeError → PyError
  | jsonDecodeError => .other "JSONDecodeError"
  | valueError => .valueError "Exceeds the limit for integer string conversion"
  | recursionError => .other "RecursionError"

namespace Json

/-- What has been read of a text, and what is left of it. -/
abbrev Read (α : Type) := α × List Char

/-! ### Strings -/

def hexValue? (c : Char) : Option ℕ :=
  if c.isDigit then some (c.toNat - 0x30)
  else if 'a' ≤ c ∧ c ≤ 'f' then some (c.toNat - 0x57)
  else if 'A' ≤ c ∧ c ≤ 'F' then some (c.toNat - 0x37)
  else none

/-- The code unit that four hexadecimal digits stand for. -/
def codeUnit? (a b c d : Char) : Option ℕ := do
  return (((← hexValue? a) * 16 + (← hexValue? b)) * 16 + (← hexValue? c)) * 16 + (← hexValue? d)

/-- The characters that stand after a backslash, with what they stand for. -/
def escapes : List (Char × ℕ) :=
  [('"', 0x22), ('\\', 0x5c), ('/', 0x2f), ('b', 0x08), ('f', 0x0c), ('n', 0x0a), ('r', 0x0d),
    ('t', 0x09)]

/-- The code points of a string whose opening quote has been read. -/
def scanUnits : List Char → Option (List ℕ × List Char)
  | [] => none
  | '"' :: cs => some ([], cs)
  | '\\' :: 'u' :: a :: b :: c :: d :: cs => do
    let unit ← codeUnit? a b c d
    let (units, cs) ← scanUnits cs
    return (unit :: units, cs)
  | '\\' :: c :: cs => do
    let unit ← escapes.lookup c
    let (units, cs) ← scanUnits cs
    return (unit :: units, cs)
  | c :: cs => do
    -- control characters have to be escaped
    guard (0x20 ≤ c.toNat)
    let (units, cs) ← scanUnits cs
    return (c.toNat :: units, cs)

/-- A surrogate that is not one of a pair, which is no character here, becomes U+FFFD: like it,
that is no ASCII character, and it is in none of the names that are looked up. -/
def charOf (unit : ℕ) : Char := if unit.isValidChar then Char.ofNat unit else Char.ofNat 0xfffd

/-- The characters of code points in which surrogates may be paired. -/
def joinSurrogates : List ℕ → List Char
  | [] => []
  | [unit] => [charOf unit]
  | high :: low :: units =>
    if 0xd800 ≤ high ∧ high < 0xdc00 ∧ 0xdc00 ≤ low ∧ low < 0xe000 then
      charOf (0x10000 + (high - 0xd800) * 0x400 + (low - 0xdc00)) :: joinSurrogates units
    else charOf high :: joinSurrogates (low :: units)

/-- `scanstring` -/
def scanString (cs : List Char) : Except DecodeError (Read String) :=
  match scanUnits cs with
  | some (units, cs) => .ok (String.ofList (joinSurrogates units), cs)
  | none => .error .jsonDecodeError

/-! ### Numbers -/

/-- The digits that a text starts with, and what is left of it. -/
def spanDigits (cs : List Char) : List Char × List Char :=
  (cs.takeWhile Char.isDigit, cs.dropWhile Char.isDigit)

/-- The value of decimal digits. -/
def ofDigits (cs : List Char) : ℕ := cs.foldl (fun n c => n * 10 + (c.toNat - 0x30)) 0

/-- The part after the point, if digits follow it. -/
def spanFraction : List Char → List Char × List Char
  | '.' :: cs =>
    let (digits, rest) := spanDigits cs
    if digits.isEmpty then ([], '.' :: cs) else ('.' :: digits, rest)
  | cs => ([], cs)

/-- The exponent, if it has digits. -/
def spanExponent : List Char → List Char × List Char
  | e :: cs =>
    if e = 'e' ∨ e = 'E' then
      let (sign, unsigned) := match cs with
        | '+' :: cs => (['+'], cs)
        | '-' :: cs => (['-'], cs)
        | cs => ([], cs)
      let (digits, rest) := spanDigits unsigned
      if digits.isEmpty then ([], e :: cs) else (e :: (sign ++ digits), rest)
    else ([], e :: cs)
  | [] => ([], [])

/-- The digits before the point: no other digit follows a leading zero. -/
def spanInteger : List Char → List Char × List Char
  | '0' :: cs => (['0'], cs)
  | cs => spanDigits cs

/-- A number after its sign. -/
def scanUnsigned (python : Interpreter) (sign cs : List Char) : Except DecodeError (Read Json) :=
  let integer := spanInteger cs
  let fraction := spanFraction integer.2
  let exponent := spanExponent fraction.2
  if integer.1.isEmpty then .error .jsonDecodeError
  else if !(fraction.1.isEmpty && exponent.1.isEmpty) then
    let number := python.float (String.ofList (sign ++ integer.1 ++ fraction.1 ++ exponent.1))
    .ok (.float number.1 number.2, exponent.2)
  else if python.maxDigits < integer.1.length then .error .valueError
  else .ok (.int (if sign.isEmpty then ofDigits integer.1 else -ofDigits integer.1), exponent.2)

/-- `_match_number` -/
def scanNumber (python : Interpreter) : List Char → Except DecodeError (Read Json)
  | '-' :: cs => scanUnsigned python ['-'] cs
  | cs => scanUnsigned python [] cs

/-! ### Containers -/

/-- What is left after JSON's whitespace. -/
def skipSpace (cs : List Char) : List Char :=
  cs.dropWhile fun c => c = ' ' || c = '\t' || c = '\n' || c = '\r'

section Containers

variable (element : List Char → Except DecodeError (Read Json))

/-- The elements of an array, from the first one on. The fuel bounds how many there are. -/
def scanElements : ℕ → List Char → Except DecodeError (Read (List Json))
  | 0, _ => .error .jsonDecodeError
  | fuel + 1, cs => do
    let (value, cs) ← element (skipSpace cs)
    match skipSpace cs with
    | ']' :: cs => return ([value], cs)
    | ',' :: cs => do
      let (values, cs) ← scanElements fuel cs
      return (value :: values, cs)
    | _ => .error .jsonDecodeError

/-- `_parse_array` -/
def scanArray (cs : List Char) : Except DecodeError (Read Json) :=
  match skipSpace cs with
  | ']' :: cs => .ok (.list [], cs)
  | cs => do
    let (values, cs) ← scanElements element (cs.length + 1) cs
    return (.list values, cs)

/-- A key with the colon after it. -/
def scanKey (cs : List Char) : Except DecodeError (Read String) :=
  match skipSpace cs with
  | '"' :: cs => do
    let (key, cs) ← scanString cs
    match skipSpace cs with
    | ':' :: cs => return (key, cs)
    | _ => .error .jsonDecodeError
  | _ => .error .jsonDecodeError

/-- The members of an object, from the first one on, after those of `d`. -/
def scanMembers : ℕ → Dict → List Char → Except DecodeError (Read Dict)
  | 0, _, _ => .error .jsonDecodeError
  | fuel + 1, d, cs => do
    let (key, cs) ← scanKey cs
    let (value, cs) ← element (skipSpace cs)
    let d := d.set key value
    match skipSpace cs with
    | '\x7d' :: cs => return (d, cs)
    | ',' :: cs => scanMembers fuel d cs
    | _ => .error .jsonDecodeError

/-- `_parse_object` -/
def scanObject (cs : List Char) : Except DecodeError (Read Json) :=
  match skipSpace cs with
  | '\x7d' :: cs => .ok (.obj [], cs)
  | cs => do
    let (d, cs) ← scanMembers element (cs.length + 1) [] cs
    return (.obj d, cs)

end Containers

/-- A value, where `nested` reads the values inside a container unless too many are open. -/
def scanValue (python : Interpreter)
    (nested : Option (List Char → Except DecodeError (Read Json))) :
    List Char → Except DecodeError (Read Json)
  | '"' :: cs => do
    let (text, cs) ← scanString cs
    return (.str text, cs)
  | '\x7b' :: cs => nested.elim (.error .recursionError) fun element => scanObject element cs
  | '[' :: cs => nested.elim (.error .recursionError) fun element => scanArray element cs
  | 'n' :: 'u' :: 'l' :: 'l' :: cs => .ok (.null, cs)
  | 't' :: 'r' :: 'u' :: 'e' :: cs => .ok (.bool true, cs)
  | 'f' :: 'a' :: 'l' :: 's' :: 'e' :: cs => .ok (.bool false, cs)
  | 'N' :: 'a' :: 'N' :: cs => .ok (.float 1 "nan", cs)
  | 'I' :: 'n' :: 'f' :: 'i' :: 'n' :: 'i' :: 't' :: 'y' :: cs => .ok (.float 1 "inf", cs)
  | '-' :: 'I' :: 'n' :: 'f' :: 'i' :: 'n' :: 'i' :: 't' :: 'y' :: cs => .ok (.float 1 "-inf", cs)
  | cs => scanNumber python cs

/-- `scan_once`, with `depth` containers left to open. -/
def scanOnce (python : Interpreter) : ℕ → List Char → Except DecodeError (Read Json)
  | 0 => scanValue python none
  | depth + 1 => scanValue python (some (scanOnce python depth))

/-- `json.loads(text)` -/
def loads (python : Interpreter) (text : String) : Except DecodeError Json := do
  let (value, cs) ← scanOnce python python.maxDepth (skipSpace text.toList)
  if (skipSpace cs).isEmpty then return value else .error .jsonDecodeError

/-! ### Progress

A scanner leaves a proper suffix of the text, so that the loops never use up their fuel, and what
it raises for a limit of the interpreter shows that the text is at least as large as that.
-/

/-- `rest` is what is left of `cs` after some characters, one at least. -/
def Behind (rest cs : List Char) : Prop := ∃ c tail, cs = c :: tail ∧ rest <:+ tail

/-- What the scanner leaves is behind where it began. -/
def Consumes {α : Type} (scan : List Char → Except DecodeError (Read α)) : Prop :=
  ∀ cs a rest, scan cs = .ok (a, rest) → Behind rest cs

section Progress

variable {α : Type} {cs mid rest : List Char} {python : Interpreter}

lemma behind_cons (c : Char) (cs : List Char) : Behind cs (c :: cs) :=
  ⟨c, cs, rfl, List.suffix_rfl⟩

lemma Behind.suffix (h : Behind rest cs) : rest <:+ cs := by
  obtain ⟨c, tail, rfl, hsuffix⟩ := h
  exact hsuffix.trans (List.suffix_cons c tail)

lemma Behind.length_lt (h : Behind rest cs) : rest.length < cs.length := by
  obtain ⟨c, tail, rfl, hsuffix⟩ := h
  exact Nat.lt_succ_of_le hsuffix.length_le

lemma Behind.of_suffix (h : Behind rest mid) (hmid : mid <:+ cs) : Behind rest cs := by
  obtain ⟨c, tail, rfl, hsuffix⟩ := h
  obtain ⟨front, rfl⟩ := hmid
  cases front with
  | nil => exact ⟨c, tail, rfl, hsuffix⟩
  | cons d front =>
    exact ⟨d, front ++ c :: tail, rfl, hsuffix.trans ⟨front ++ [c], by simp⟩⟩

lemma Behind.suffix_of (h : Behind mid cs) (hrest : rest <:+ mid) : Behind rest cs := by
  obtain ⟨c, tail, rfl, hsuffix⟩ := h
  exact ⟨c, tail, rfl, hrest.trans hsuffix⟩

lemma Behind.trans (h : Behind rest mid) (hmid : Behind mid cs) : Behind rest cs :=
  hmid.suffix_of h.suffix

lemma skipSpace_suffix (cs : List Char) : skipSpace cs <:+ cs := List.dropWhile_suffix _

lemma scanUnits_behind {units : List ℕ} (h : scanUnits cs = some (units, rest)) :
    Behind rest cs := by
  fun_induction scanUnits cs generalizing units rest with
  | case1 => cases h
  | case2 cs =>
    cases h
    exact behind_cons _ _
  | case3 a b c d cs ih =>
    simp only [Option.bind_eq_bind, Option.bind_eq_some_iff, Option.pure_def, Option.some.injEq,
      Prod.mk.injEq] at h
    obtain ⟨_, -, ⟨units, rest⟩, hscan, -, rfl⟩ := h
    exact (ih hscan).of_suffix ⟨['\\', 'u', a, b, c, d], rfl⟩
  | case4 c cs hne ih =>
    simp only [Option.bind_eq_bind, Option.bind_eq_some_iff, Option.pure_def, Option.some.injEq,
      Prod.mk.injEq] at h
    obtain ⟨_, -, ⟨units, rest⟩, hscan, -, rfl⟩ := h
    exact (ih hscan).of_suffix ⟨['\\', c], rfl⟩
  | case5 c cs hne hne' hne'' ih =>
    simp only [Option.bind_eq_bind, Option.bind_eq_some_iff, Option.pure_def, Option.some.injEq,
      Prod.mk.injEq] at h
    obtain ⟨_, -, ⟨units, rest⟩, hscan, -, rfl⟩ := h
    exact (ih hscan).of_suffix (List.suffix_cons c cs)

lemma consumes_scanString : Consumes scanString := by
  intro cs text rest h
  unfold scanString at h
  split at h
  · next units rest' hscan =>
    cases h
    exact scanUnits_behind hscan
  · cases h

/-! #### Numbers -/

lemma spanFraction_suffix (cs : List Char) : (spanFraction cs).2 <:+ cs := by
  unfold spanFraction
  split
  · next cs =>
    dsimp only
    split_ifs
    · exact List.suffix_rfl
    · exact (List.dropWhile_suffix _).trans (List.suffix_cons _ cs)
  · exact List.suffix_rfl

lemma spanExponent_suffix (cs : List Char) : (spanExponent cs).2 <:+ cs := by
  unfold spanExponent
  split
  · next e cs =>
    split_ifs
    · dsimp only
      split_ifs
      · exact List.suffix_rfl
      · apply (List.dropWhile_suffix _).trans
        split
        · next cs => exact ⟨[e, '+'], rfl⟩
        · next cs => exact ⟨[e, '-'], rfl⟩
        · exact List.suffix_cons e _
    · exact List.suffix_rfl
  · exact List.suffix_rfl

lemma spanInteger_suffix (cs : List Char) : (spanInteger cs).2 <:+ cs := by
  unfold spanInteger
  split
  · exact List.suffix_cons _ _
  · exact List.dropWhile_suffix _

lemma spanInteger_behind (h : (spanInteger cs).1 ≠ []) : Behind (spanInteger cs).2 cs := by
  cases cs with
  | nil => exact absurd rfl h
  | cons c cs =>
    by_cases hzero : c = '0'
    · subst hzero
      exact behind_cons _ _
    · have hspan : spanInteger (c :: cs) = spanDigits (c :: cs) := by
        unfold spanInteger
        split
        · next heq => exact absurd (List.cons.inj heq).1 hzero
        · rfl
      rw [hspan] at h ⊢
      by_cases hdigit : c.isDigit = true
      · refine ⟨c, cs, rfl, ?_⟩
        rw [spanDigits, List.dropWhile_cons_of_pos hdigit]
        exact List.dropWhile_suffix _
      · rw [spanDigits, List.takeWhile_cons_of_neg hdigit] at h
        exact absurd rfl h

lemma length_spanInteger (cs : List Char) : (spanInteger cs).1.length ≤ cs.length := by
  unfold spanInteger
  split
  · simp
  · exact (List.takeWhile_sublist _).length_le

lemma consumes_scanUnsigned (sign : List Char) : Consumes (scanUnsigned python sign) := by
  intro cs value rest h
  unfold scanUnsigned at h
  dsimp only at h
  by_cases hempty : (spanInteger cs).1.isEmpty = true
  · rw [if_pos hempty] at h
    cases h
  · have hne : (spanInteger cs).1 ≠ [] := by simpa using hempty
    have hbehind := (spanInteger_behind hne).suffix_of
      ((spanExponent_suffix (spanFraction (spanInteger cs).2).2).trans (spanFraction_suffix _))
    rw [if_neg hempty] at h
    split_ifs at h
    · cases h
      exact hbehind
    · cases h
      exact hbehind
    · cases h
      exact hbehind

lemma consumes_scanNumber : Consumes (scanNumber python) := by
  intro cs value rest h
  unfold scanNumber at h
  split at h
  · exact (consumes_scanUnsigned _ _ _ _ h).of_suffix (List.suffix_cons _ _)
  · exact consumes_scanUnsigned _ _ _ _ h

/-! #### Containers -/

variable {element : List Char → Except DecodeError (Read Json)}

lemma consumes_scanElements (helement : Consumes element) (fuel : ℕ) :
    Consumes (scanElements element fuel) := by
  induction fuel with
  | zero =>
    intro cs values rest h
    cases h
  | succ fuel ih =>
    intro cs values rest h
    simp only [scanElements, bind_eq_ok] at h
    obtain ⟨⟨value, mid⟩, hvalue, h⟩ := h
    have hmid : Behind mid cs := (helement _ _ _ hvalue).of_suffix (skipSpace_suffix cs)
    have hspace : Behind (skipSpace mid) cs := hmid.suffix_of (skipSpace_suffix mid)
    dsimp only at h
    split at h
    · next tail heq =>
      cases h
      exact (heq ▸ behind_cons ']' _).trans hspace
    · next tail heq =>
      obtain ⟨⟨values', rest'⟩, hrest, h⟩ := bind_eq_ok.mp h
      cases h
      exact (ih _ _ _ hrest).trans ((heq ▸ behind_cons ',' tail).trans hspace)
    · cases h

lemma consumes_scanArray (helement : Consumes element) : Consumes (scanArray element) := by
  intro cs value rest h
  unfold scanArray at h
  split at h
  · next tail heq =>
    cases h
    exact (heq ▸ behind_cons ']' _).of_suffix (skipSpace_suffix cs)
  · next tail hne =>
    obtain ⟨⟨values, rest'⟩, hrest, h⟩ := bind_eq_ok.mp h
    cases h
    exact (consumes_scanElements helement _ _ _ _ hrest).of_suffix (skipSpace_suffix cs)

lemma consumes_scanKey : Consumes scanKey := by
  intro cs key rest h
  unfold scanKey at h
  split at h
  · next tail heq =>
    obtain ⟨⟨key', mid⟩, hkey, h⟩ := bind_eq_ok.mp h
    have hmid : Behind mid cs := ((consumes_scanString _ _ _ hkey).trans
      (heq ▸ behind_cons '"' tail)).of_suffix (skipSpace_suffix cs)
    dsimp only at h
    split at h
    · next tail' heq' =>
      cases h
      exact (heq' ▸ behind_cons ':' _).trans (hmid.suffix_of (skipSpace_suffix mid))
    · cases h
  · cases h

lemma consumes_scanMembers (helement : Consumes element) (fuel : ℕ) (d : Dict) :
    Consumes (scanMembers element fuel d) := by
  induction fuel generalizing d with
  | zero =>
    intro cs members rest h
    cases h
  | succ fuel ih =>
    intro cs members rest h
    simp only [scanMembers, bind_eq_ok] at h
    obtain ⟨⟨key, mid⟩, hkey, ⟨value, mid'⟩, hvalue, h⟩ := h
    have hmid : Behind mid' cs :=
      ((helement _ _ _ hvalue).of_suffix (skipSpace_suffix mid)).trans (consumes_scanKey _ _ _ hkey)
    have hspace : Behind (skipSpace mid') cs := hmid.suffix_of (skipSpace_suffix mid')
    dsimp only at h
    split at h
    · next tail heq =>
      cases h
      exact (heq ▸ behind_cons '\x7d' _).trans hspace
    · next tail heq => exact (ih _ _ _ _ h).trans ((heq ▸ behind_cons ',' tail).trans hspace)
    · cases h

lemma consumes_scanObject (helement : Consumes element) : Consumes (scanObject element) := by
  intro cs value rest h
  unfold scanObject at h
  split at h
  · next tail heq =>
    cases h
    exact (heq ▸ behind_cons '\x7d' _).of_suffix (skipSpace_suffix cs)
  · next tail hne =>
    obtain ⟨⟨d, rest'⟩, hrest, h⟩ := bind_eq_ok.mp h
    cases h
    exact (consumes_scanMembers helement _ _ _ _ _ hrest).of_suffix (skipSpace_suffix cs)

lemma consumes_scanValue {nested : Option (List Char → Except DecodeError (Read Json))}
    (hnested : ∀ element, nested = some element → Consumes element) :
    Consumes (scanValue python nested) := by
  intro cs value rest h
  unfold scanValue at h
  split at h
  · next cs =>
    obtain ⟨⟨text, rest'⟩, htext, h⟩ := bind_eq_ok.mp h
    cases h
    exact (consumes_scanString _ _ _ htext).of_suffix (List.suffix_cons _ cs)
  · next cs =>
    cases nested with
    | none => cases h
    | some element =>
      exact (consumes_scanObject (hnested element rfl) _ _ _ h).of_suffix (List.suffix_cons _ cs)
  · next cs =>
    cases nested with
    | none => cases h
    | some element =>
      exact (consumes_scanArray (hnested element rfl) _ _ _ h).of_suffix (List.suffix_cons _ cs)
  · cases h
    exact (behind_cons _ _).of_suffix ⟨['n', 'u', 'l'], rfl⟩
  · cases h
    exact (behind_cons _ _).of_suffix ⟨['t', 'r', 'u'], rfl⟩
  · cases h
    exact (behind_cons _ _).of_suffix ⟨['f', 'a', 'l', 's'], rfl⟩
  · cases h
    exact (behind_cons _ _).of_suffix ⟨['N', 'a'], rfl⟩
  · cases h
    exact (behind_cons _ _).of_suffix ⟨['I', 'n', 'f', 'i', 'n', 'i', 't'], rfl⟩
  · cases h
    exact (behind_cons _ _).of_suffix ⟨['-', 'I', 'n', 'f', 'i', 'n', 'i', 't'], rfl⟩
  · exact consumes_scanNumber _ _ _ h

lemma consumes_scanOnce (depth : ℕ) : Consumes (scanOnce python depth) := by
  induction depth with
  | zero => exact consumes_scanValue (by simp)
  | succ depth ih =>
    apply consumes_scanValue
    intro element helement
    cases helement
    exact ih

/-- More fuel than there are characters changes nothing. -/
lemma scanElements_fuel (helement : Consumes element) {m n : ℕ} (hm : cs.length < m)
    (hn : cs.length < n) : scanElements element m cs = scanElements element n cs := by
  induction m generalizing n cs with
  | zero => omega
  | succ m ih =>
    cases n with
    | zero => omega
    | succ n =>
      simp only [scanElements]
      cases hvalue : element (skipSpace cs) with
      | error e => rfl
      | ok read =>
        obtain ⟨value, mid⟩ := read
        have hmid : Behind mid cs := (helement _ _ _ hvalue).of_suffix (skipSpace_suffix cs)
        simp only [bind, Except.bind]
        split
        · rfl
        · next tail heq =>
          have htail := ((heq ▸ behind_cons ',' tail).suffix_of List.suffix_rfl).trans
            (hmid.suffix_of (skipSpace_suffix mid))
          have hlength := htail.length_lt
          rw [ih (by omega) (by omega : tail.length < n)]
        · rfl

lemma scanMembers_fuel (helement : Consumes element) {m n : ℕ} (d : Dict) (hm : cs.length < m)
    (hn : cs.length < n) : scanMembers element m d cs = scanMembers element n d cs := by
  induction m generalizing n d cs with
  | zero => omega
  | succ m ih =>
    cases n with
    | zero => omega
    | succ n =>
      simp only [scanMembers]
      cases hkey : scanKey cs with
      | error e => rfl
      | ok read =>
        obtain ⟨key, mid⟩ := read
        simp only [bind, Except.bind]
        cases hvalue : element (skipSpace mid) with
        | error e => rfl
        | ok read =>
          obtain ⟨value, mid'⟩ := read
          have hmid : Behind mid' cs := ((helement _ _ _ hvalue).of_suffix
            (skipSpace_suffix mid)).trans (consumes_scanKey _ _ _ hkey)
          dsimp only
          split
          · rfl
          · next tail heq =>
            have htail := ((heq ▸ behind_cons ',' tail).suffix_of List.suffix_rfl).trans
              (hmid.suffix_of (skipSpace_suffix mid'))
            have hlength := htail.length_lt
            exact ih _ (by omega) (by omega : tail.length < n)
          · rfl

/-! #### Limits -/

/-- How many containers a text may open. -/
def brackets (cs : List Char) : ℕ := cs.countP fun c => c = '[' || c = '\x7b'

/-- What an exception for a limit shows of the text. -/
def Exceeds (python : Interpreter) (depth : ℕ) (cs : List Char) : DecodeError → Prop
  | .valueError => python.maxDigits < cs.length
  | .recursionError => depth < brackets cs
  | .jsonDecodeError => True

/-- The scanner raises for a limit only where the text exceeds it. -/
def KeepsLimits {α : Type} (python : Interpreter) (depth : ℕ)
    (scan : List Char → Except DecodeError (Read α)) : Prop :=
  ∀ cs e, scan cs = .error e → Exceeds python depth cs e

variable {depth : ℕ}

lemma Exceeds.of_suffix {e : DecodeError} (h : Exceeds python depth mid e) (hmid : mid <:+ cs) :
    Exceeds python depth cs e := by
  cases e with
  | jsonDecodeError => trivial
  | valueError => exact lt_of_lt_of_le h hmid.length_le
  | recursionError => exact lt_of_lt_of_le h (hmid.sublist.countP_le)

lemma keepsLimits_scanString : KeepsLimits python depth scanString := by
  intro cs e h
  unfold scanString at h
  split at h
  · cases h
  · cases h
    trivial

lemma keepsLimits_scanNumber : KeepsLimits python depth (scanNumber python) := by
  have hunsigned : ∀ sign, KeepsLimits python depth (scanUnsigned python sign) := by
    intro sign cs e h
    unfold scanUnsigned at h
    dsimp only at h
    split_ifs at h with hempty hinteger hdigits
    · cases h
      trivial
    · cases h
      exact lt_of_lt_of_le hdigits (length_spanInteger cs)
  intro cs e h
  unfold scanNumber at h
  split at h
  · exact (hunsigned _ _ _ h).of_suffix (List.suffix_cons _ _)
  · exact hunsigned _ _ _ h

/-- Where a block raises: in its first statement, or after it. -/
lemma bind_eq_error {β γ : Type} {x : Except DecodeError β} {f : β → Except DecodeError γ}
    {e : DecodeError} : (x >>= f) = .error e ↔ x = .error e ∨ ∃ b, x = .ok b ∧ f b = .error e := by
  cases x <;> simp [bind, Except.bind]

lemma keepsLimits_scanElements (helement : Consumes element)
    (hlimits : KeepsLimits python depth element) (fuel : ℕ) :
    KeepsLimits python depth (scanElements element fuel) := by
  induction fuel with
  | zero =>
    intro cs e h
    cases h
    trivial
  | succ fuel ih =>
    intro cs e h
    rw [scanElements] at h
    rcases bind_eq_error.mp h with h | ⟨⟨value, mid⟩, hvalue, h⟩
    · exact (hlimits _ _ h).of_suffix (skipSpace_suffix cs)
    · have hmid : Behind mid cs := (helement _ _ _ hvalue).of_suffix (skipSpace_suffix cs)
      dsimp only at h
      split at h
      · cases h
      · next tail heq =>
        rcases bind_eq_error.mp h with h | ⟨_, -, h⟩
        · exact (ih _ _ h).of_suffix ((heq ▸ behind_cons ',' tail).suffix.trans
            ((skipSpace_suffix mid).trans hmid.suffix))
        · cases h
      · cases h
        trivial

lemma keepsLimits_scanArray (helement : Consumes element)
    (hlimits : KeepsLimits python depth element) :
    KeepsLimits python depth (scanArray element) := by
  intro cs e h
  unfold scanArray at h
  split at h
  · cases h
  · rcases bind_eq_error.mp h with h | ⟨_, -, h⟩
    · exact (keepsLimits_scanElements helement hlimits _ _ _ h).of_suffix (skipSpace_suffix cs)
    · cases h

lemma keepsLimits_scanKey : KeepsLimits python depth scanKey := by
  intro cs e h
  unfold scanKey at h
  split at h
  · next tail heq =>
    rcases bind_eq_error.mp h with h | ⟨⟨key, mid⟩, -, h⟩
    · exact (keepsLimits_scanString _ _ h).of_suffix
        ((heq ▸ behind_cons '"' tail).suffix.trans (skipSpace_suffix cs))
    · dsimp only at h
      split at h
      · cases h
      · cases h
        trivial
  · cases h
    trivial

lemma keepsLimits_scanMembers (helement : Consumes element)
    (hlimits : KeepsLimits python depth element) (fuel : ℕ) (d : Dict) :
    KeepsLimits python depth (scanMembers element fuel d) := by
  induction fuel generalizing d with
  | zero =>
    intro cs e h
    cases h
    trivial
  | succ fuel ih =>
    intro cs e h
    rw [scanMembers] at h
    rcases bind_eq_error.mp h with h | ⟨⟨key, mid⟩, hkey, h⟩
    · exact keepsLimits_scanKey _ _ h
    have hmid := (consumes_scanKey _ _ _ hkey).suffix
    rcases bind_eq_error.mp h with h | ⟨⟨value, mid'⟩, hvalue, h⟩
    · exact (hlimits _ _ h).of_suffix ((skipSpace_suffix mid).trans hmid)
    have hmid' := (helement _ _ _ hvalue).suffix.trans ((skipSpace_suffix mid).trans hmid)
    dsimp only at h
    split at h
    · cases h
    · next tail heq =>
      exact (ih _ _ _ h).of_suffix ((heq ▸ behind_cons ',' tail).suffix.trans
        ((skipSpace_suffix mid').trans hmid'))
    · cases h
      trivial

lemma keepsLimits_scanObject (helement : Consumes element)
    (hlimits : KeepsLimits python depth element) :
    KeepsLimits python depth (scanObject element) := by
  intro cs e h
  unfold scanObject at h
  split at h
  · cases h
  · rcases bind_eq_error.mp h with h | ⟨_, -, h⟩
    · exact (keepsLimits_scanMembers helement hlimits _ _ _ _ h).of_suffix (skipSpace_suffix cs)
    · cases h

/-- One container more may be open around what is read inside it. -/
lemma Exceeds.nested {e : DecodeError} {c : Char} (h : Exceeds python depth cs e)
    (hc : c = '[' ∨ c = '\x7b') : Exceeds python (depth + 1) (c :: cs) e := by
  cases e with
  | jsonDecodeError => trivial
  | valueError => exact Nat.lt_succ_of_lt h
  | recursionError =>
    have hcount : brackets (c :: cs) = brackets cs + 1 := by
      rw [brackets, List.countP_cons_of_pos (by simpa using hc), brackets]
    show depth + 1 < brackets (c :: cs)
    rw [hcount]
    exact Nat.succ_lt_succ h

lemma exceeds_zero {c : Char} (hc : c = '[' ∨ c = '\x7b') :
    Exceeds python 0 (c :: cs) .recursionError := by
  show 0 < brackets (c :: cs)
  rw [brackets, List.countP_cons_of_pos (by simpa using hc)]
  exact Nat.succ_pos _

/-- The values inside a container are read with one container less to open. -/
lemma keepsLimits_scanValue {nested : Option (List Char → Except DecodeError (Read Json))}
    (hnone : nested = none → depth = 0)
    (hsome : ∀ element, nested = some element →
      ∃ d, depth = d + 1 ∧ Consumes element ∧ KeepsLimits python d element) :
    KeepsLimits python depth (scanValue python nested) := by
  intro cs e h
  unfold scanValue at h
  split at h
  · next cs =>
    rcases bind_eq_error.mp h with h | ⟨_, -, h⟩
    · exact (keepsLimits_scanString _ _ h).of_suffix (List.suffix_cons _ cs)
    · cases h
  · next cs =>
    cases nested with
    | none =>
      obtain rfl := hnone rfl
      cases h
      exact exceeds_zero (.inr rfl)
    | some element =>
      obtain ⟨d, rfl, helement, hlimits⟩ := hsome element rfl
      exact (keepsLimits_scanObject helement hlimits _ _ h).nested (.inr rfl)
  · next cs =>
    cases nested with
    | none =>
      obtain rfl := hnone rfl
      cases h
      exact exceeds_zero (.inl rfl)
    | some element =>
      obtain ⟨d, rfl, helement, hlimits⟩ := hsome element rfl
      exact (keepsLimits_scanArray helement hlimits _ _ h).nested (.inl rfl)
  · cases h
  · cases h
  · cases h
  · cases h
  · cases h
  · cases h
  · exact keepsLimits_scanNumber _ _ h

lemma keepsLimits_scanOnce (depth : ℕ) : KeepsLimits python depth (scanOnce python depth) := by
  induction depth with
  | zero => exact keepsLimits_scanValue (fun _ => rfl) (by simp)
  | succ depth ih =>
    apply keepsLimits_scanValue (by simp)
    intro element helement
    cases helement
    exact ⟨depth, rfl, consumes_scanOnce depth, ih⟩

/-- A text that stays within the limits of the interpreter is decoded or is no JSON. -/
theorem exceeds_of_loads {text : String} {e : DecodeError} (h : loads python text = .error e) :
    Exceeds python python.maxDepth text.toList e := by
  rcases bind_eq_error.mp h with h | ⟨⟨value, rest⟩, -, h⟩
  · exact (keepsLimits_scanOnce _ _ _ h).of_suffix (skipSpace_suffix _)
  · dsimp only at h
    split at h
    · cases h
    · cases h
      trivial

end Progress

end Json
end AiHq
