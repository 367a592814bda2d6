import AiHq.Library.Table

/-!
# Python values

The values that the services exchange: exceptions, instants of time, and the JSON values that
dictionaries hold, with Python's equality and with `json.dumps` as the services call it.
-/

namespace AiHq

/-- The exceptions that the modelled code raises or handles. `other` stands for any exception
of an adapter, an agent or a sandbox that no handler names. -/
inductive PyError where
  | keyError (message : String)
  | valueError (message : String)
  | typeError (message : String)
  | runtimeError (message : String)
  | integrityError
  | toolAdapterError (message : String)
  | hostHelperError (message : String)
  | unsupportedMission (message : String)
  | recoveryPersistenceError (message : String)
  | permissionError (message : String)
  | chatAccessDenied (message : String)
  | chatModelError (message : String)
  | other (name : String)
  deriving DecidableEq, Repr

/-- `if c: raise error`. -/
def raiseIf (c : Prop) [Decidable c] (error : PyError) : Except PyError Unit :=
  if c then .error error else .ok ()

@[simp] lemma raiseIf_eq_ok {c : Prop} [Decidable c] {error : PyError} {u : Unit} :
    raiseIf c error = .ok u ↔ ¬c := by
  unfold raiseIf
  split_ifs with h <;> simp [h]

/-- A block of statements succeeds when the first one does and the rest do after it. -/
lemma bind_eq_ok {ε α β : Type} {x : Except ε α} {f : α → Except ε β} {b : β} :
    (x >>= f) = .ok b ↔ ∃ a, x = .ok a ∧ f a = .ok b := by
  cases x <;> simp [bind, Except.bind]

lemma isSome_toOption {ε α : Type} {x : Except ε α} :
    x.toOption.isSome = true ↔ ∃ a, x = .ok a := by
  cases x <;> simp [Except.toOption]

/-! ### Characters -/

section Characters

variable (cs : List Char) (p : Char → Prop) [DecidablePred p]

-- what is said of the characters of a list is not decided by going through all characters
instance (priority := high) decidableForallChars : Decidable (∀ c ∈ cs, p c) :=
  List.decidableBAll p cs

instance (priority := high) decidableExistsChars : Decidable (∃ c ∈ cs, p c) :=
  List.decidableBEx p cs

end Characters

/-! ### Time -/

/-- A UTC instant, in microseconds. -/
abbrev Datetime := ℤ

/-- `timedelta(seconds=n)`. -/
def seconds (n : ℤ) : ℤ := n * 1000000

/-- `timedelta(hours=n)`. -/
def hours (n : ℤ) : ℤ := seconds (n * 3600)

/-! ### Strings -/

/-- `str.isspace` of one character. -/
def isSpace (c : Char) : Bool :=
  c.toNat ∈ [0x9, 0xa, 0xb, 0xc, 0xd, 0x1c, 0x1d, 0x1e, 0x1f, 0x20, 0x85, 0xa0, 0x1680, 0x2028,
    0x2029, 0x202f, 0x205f, 0x3000] || (0x2000 ≤ c.toNat && c.toNat ≤ 0x200a)

/-- `str.strip()` on the characters of a string. -/
def stripChars (cs : List Char) : List Char :=
  ((cs.dropWhile isSpace).reverse.dropWhile isSpace).reverse

/-- `str.strip()`. -/
def strip (s : String) : String := String.ofList (stripChars s.toList)

/-- `s[:n]`. -/
def slice (s : String) (n : ℕ) : String := String.ofList (s.toList.take n)

/-- The last `width` hexadecimal digits of `n`. -/
def hexDigits : ℕ → ℕ → List Char
  | 0, _ => []
  | width + 1, n => hexDigits width (n / 16) ++ [(n % 16).digitChar]

/-! ### JSON -/

/-- A JSON value. A float carries its exact value and the text that `float.__repr__` gives. -/
inductive Json where
  | null
  | bool (b : Bool)
  | int (n : ℤ)
  | float (q : ℚ) (text : String)
  | str (s : String)
  | list (xs : List Json)
  | obj (fields : List (String × Json))

/-- A text or `None`. -/
def orNull (text : Option String) : Json := text.elim .null .str

namespace Json

/-- The number that a boolean or a number is equal to. -/
def number? : Json → Option ℚ
  | bool b => some (if b then 1 else 0)
  | int n => some n
  | float q _ => some q
  | _ => none

mutual
/-- Python's `==`: numbers and booleans by value, objects whatever the order of their keys. -/
def pyEq : Json → Json → Bool
  | null, null => true
  | str s, str t => s == t
  | list xs, list ys => pyEqList xs ys
  | obj xs, obj ys => xs.length == ys.length && pyEqFields xs ys
  | x, y => match x.number?, y.number? with
    | some p, some q => p == q
    | _, _ => false

def pyEqList : List Json → List Json → Bool
  | [], [] => true
  | x :: xs, y :: ys => pyEq x y && pyEqList xs ys
  | _, _ => false

def pyEqFields : List (String × Json) → List (String × Json) → Bool
  | [], _ => true
  | (k, x) :: xs, ys => (match ys.lookup k with
    | some y => pyEq x y
    | none => false) && pyEqFields xs ys
end

/-- `bool(value)`. -/
def truthy : Json → Bool
  | null => false
  | bool b => b
  | int n => n ≠ 0
  | float q _ => q ≠ 0
  | str s => s ≠ ""
  | list xs => !xs.isEmpty
  | obj fields => !fields.isEmpty

/-- `repr` of a string; characters from `¡` on, the soft hyphen excepted, count as printable. -/
def reprChars (cs : List Char) : List Char :=
  let quote := if cs.contains '\'' && !cs.contains '"' then '"' else '\''
  quote :: (cs.flatMap fun c =>
    if c = quote || c = '\\' then ['\\', c]
    else if c = '\n' then ['\\', 'n']
    else if c = '\r' then ['\\', 'r']
    else if c = '\t' then ['\\', 't']
    else if (0x20 ≤ c.toNat && c.toNat ≤ 0x7e) || (0xa1 ≤ c.toNat && c.toNat ≠ 0xad) then [c]
    else '\\' :: 'x' :: hexDigits 2 c.toNat) ++ [quote]

mutual
def pyRepr : Json → List Char
  | null => "None".toList
  | bool b => (if b then "True" else "False").toList
  | int n => (toString n).toList
  | float _ text => text.toList
  | str s => reprChars s.toList
  | list xs => '[' :: (", ".toList.intercalate (pyReprList xs) ++ [']'])
  | obj fields => '\x7b' :: (", ".toList.intercalate (pyReprFields fields) ++ ['\x7d'])

def pyReprList : List Json → List (List Char)
  | [] => []
  | x :: xs => pyRepr x :: pyReprList xs

def pyReprFields : List (String × Json) → List (List Char)
  | [] => []
  | (k, x) :: xs => (reprChars k.toList ++ ": ".toList ++ pyRepr x) :: pyReprFields xs
end

/-- `str(value)`. -/
def pyStr : Json → String
  | str s => s
  | x => String.ofList x.pyRepr

/-- One character inside a JSON string, as `json.dumps` writes it with `ensure_ascii`. -/
def escapeChar (c : Char) : List Char :=
  if c = '"' then ['\\', '"']
  else if c = '\\' then ['\\', '\\']
  else if c = '\n' then ['\\', 'n']
  else if c = '\r' then ['\\', 'r']
  else if c = '\t' then ['\\', 't']
  else if c.toNat = 0x08 then ['\\', 'b']
  else if c.toNat = 0x0c then ['\\', 'f']
  else if 0x20 ≤ c.toNat && c.toNat ≤ 0x7e then [c]
  else if c.toNat < 0x10000 then '\\' :: 'u' :: hexDigits 4 c.toNat
  else
    -- a surrogate pair
    '\\' :: 'u' :: hexDigits 4 (0xd800 + (c.toNat - 0x10000) / 0x400) ++
      '\\' :: 'u' :: hexDigits 4 (0xdc00 + (c.toNat - 0x10000) % 0x400)

def quoteChars (s : String) : List Char := '"' :: (s.toList.flatMap escapeChar ++ ['"'])

mutual
/-- `json.dumps(value, sort_keys=True, separators=(",", ":"))`. -/
def dumps : Json → List Char
  | null => "null".toList
  | bool b => (if b then "true" else "false").toList
  | int n => (toString n).toList
  | float _ text => text.toList
  | str s => quoteChars s
  | list xs => '[' :: ([','].intercalate (dumpsList xs) ++ [']'])
  | obj fields => '\x7b' :: ([','].intercalate ((Relational.orderBy Prod.fst
      (dumpsFields fields)).map fun field => quoteChars field.1 ++ ':' :: field.2) ++ ['\x7d'])

def dumpsList : List Json → List (List Char)
  | [] => []
  | x :: xs => dumps x :: dumpsList xs

def dumpsFields : List (String × Json) → List (String × List Char)
  | [] => []
  | (k, x) :: xs => (k, dumps x) :: dumpsFields xs
end

end Json

/-! ### Dictionaries -/

/-- A dictionary with string keys. -/
abbrev Dict := List (String × Json)

namespace Dict

/-- `d.get(key)`. -/
def get (d : Dict) (key : String) : Option Json := d.lookup key

/-- `d[key] = value` -/
def set : Dict → String → Json → Dict
  | [], key, value => [(key, value)]
  | (name, old) :: d, key, value =>
    if name = key then (key, value) :: d else (name, old) :: set d key value

/-- `d.pop(key, default)`: the value and what is left. -/
def pop (d : Dict) (key : String) (default : Json) : Json × Dict :=
  ((d.get key).getD default, d.filter fun field => field.1 ≠ key)

/-- What is left after `pop` has the other keys. -/
lemma get_pop_ne (d : Dict) (default : Json) {key key' : String} (hne : key ≠ key') :
    (d.pop key' default).2.get key = d.get key := by
  simp only [pop, get]
  induction d with
  | nil => rfl
  | cons field d ih =>
    obtain ⟨name, value⟩ := field
    by_cases hname : name = key'
    · subst hname
      have hkey : (key == name) = false := by simpa using hne
      rw [List.filter_cons_of_neg (by simp), ih, List.lookup_cons, hkey]
    · rw [List.filter_cons_of_pos (by simpa using hname), List.lookup_cons, List.lookup_cons, ih]

end Dict

end AiHq
