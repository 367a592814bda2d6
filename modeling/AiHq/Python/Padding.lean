import AiHq.Python.Decoding

/-!
# JSON with space after it

What follows a number does not change how it is read, unless it goes on with the number, and space
at the end of a text does not change what the text is decoded as.
-/

namespace AiHq

namespace Json

/-! ### Numbers -/

/-- What follows a number: nothing that could be a part of it. -/
def EndsNumber (rest : List Char) : Prop :=
  ∀ c ∈ rest.head?, c.isDigit = false ∧ c ∉ ['.', '+', '-', 'e', 'E']

section Numbers

variable {python : Interpreter} {cs rest : List Char}

lemma EndsNumber.not_digit (h : EndsNumber rest) : rest.takeWhile Char.isDigit = [] := by
  cases rest with
  | nil => rfl
  | cons c rest => rw [List.takeWhile_cons_of_neg (by simp [(h c rfl).1])]

lemma EndsNumber.head?_ne (h : EndsNumber rest) {c : Char}
    (hc : c.isDigit = true ∨ c ∈ ['.', '+', '-', 'e', 'E']) : rest.head? ≠ some c := by
  intro heq
  obtain ⟨hdigit, hmem⟩ := h c heq
  obtain hc | hc := hc
  · rw [hdigit] at hc
    cases hc
  · exact hmem hc

lemma spanDigits_append (h : EndsNumber rest) (cs : List Char) :
    spanDigits (cs ++ rest) = ((spanDigits cs).1, (spanDigits cs).2 ++ rest) := by
  induction cs with
  | nil =>
    have hdrop : rest.dropWhile Char.isDigit = rest := by
      have happend := List.takeWhile_append_dropWhile (p := Char.isDigit) (l := rest)
      rwa [h.not_digit] at happend
    rw [List.nil_append, spanDigits, h.not_digit, hdrop]
    rfl
  | cons c cs ih =>
    by_cases hc : c.isDigit
    · simp only [spanDigits, List.cons_append, List.takeWhile_cons_of_pos hc,
        List.dropWhile_cons_of_pos hc, Prod.mk.injEq] at ih ⊢
      exact ⟨congrArg _ ih.1, ih.2⟩
    · simp only [spanDigits, List.cons_append, List.takeWhile_cons_of_neg hc,
        List.dropWhile_cons_of_neg hc]

lemma spanInteger_append (h : EndsNumber rest) (cs : List Char) :
    spanInteger (cs ++ rest) = ((spanInteger cs).1, (spanInteger cs).2 ++ rest) := by
  have hdigits : ∀ ds : List Char, ds.head? ≠ some '0' → spanInteger ds = spanDigits ds := by
    intro ds hds
    unfold spanInteger
    split
    · exact absurd rfl hds
    · rfl
  cases cs with
  | nil =>
    rw [List.nil_append, hdigits rest (h.head?_ne (.inl rfl))]
    exact spanDigits_append h []
  | cons c cs =>
    by_cases hc : c = '0'
    · subst hc
      rfl
    · have hne : ∀ ds : List Char, (c :: ds).head? ≠ some '0' := fun ds heq =>
        hc (Option.some.inj heq)
      rw [List.cons_append, hdigits _ (hne _), hdigits _ (hne _), ← List.cons_append]
      exact spanDigits_append h (c :: cs)

lemma spanFraction_append (h : EndsNumber rest) (cs : List Char) :
    spanFraction (cs ++ rest) = ((spanFraction cs).1, (spanFraction cs).2 ++ rest) := by
  have hnone : ∀ ds : List Char, ds.head? ≠ some '.' → spanFraction ds = ([], ds) := by
    intro ds hds
    unfold spanFraction
    split
    · exact absurd rfl hds
    · rfl
  cases cs with
  | nil => exact hnone rest (h.head?_ne (.inr (by decide)))
  | cons c cs =>
    by_cases hc : c = '.'
    · subst hc
      simp only [spanFraction, List.cons_append, spanDigits_append h]
      split_ifs
      · rfl
      · rfl
    · have hne : ∀ ds : List Char, (c :: ds).head? ≠ some '.' := fun ds heq =>
        hc (Option.some.inj heq)
      rw [List.cons_append, hnone _ (hne _), hnone _ (hne _)]
      rfl

/-- The sign of an exponent, and what follows it. -/
def spanSign : List Char → List Char × List Char
  | '+' :: cs => (['+'], cs)
  | '-' :: cs => (['-'], cs)
  | cs => ([], cs)

lemma spanSign_append (h : EndsNumber rest) (cs : List Char) :
    spanSign (cs ++ rest) = ((spanSign cs).1, (spanSign cs).2 ++ rest) := by
  have hnone : ∀ ds : List Char, ds.head? ≠ some '+' → ds.head? ≠ some '-' →
      spanSign ds = ([], ds) := by
    intro ds hplus hminus
    unfold spanSign
    split
    · exact absurd rfl hplus
    · exact absurd rfl hminus
    · rfl
  cases cs with
  | nil => exact hnone rest (h.head?_ne (.inr (by decide))) (h.head?_ne (.inr (by decide)))
  | cons c cs =>
    by_cases hplus : c = '+'
    · subst hplus
      rfl
    · by_cases hminus : c = '-'
      · subst hminus
        rfl
      · have hne : ∀ ds : List Char, (c :: ds).head? ≠ some '+' ∧ (c :: ds).head? ≠ some '-' :=
          fun ds => ⟨fun heq => hplus (Option.some.inj heq), fun heq => hminus (Option.some.inj heq)⟩
        rw [List.cons_append, hnone _ (hne _).1 (hne _).2, hnone _ (hne _).1 (hne _).2]
        rfl

lemma spanExponent_cons (e : Char) (cs : List Char) : spanExponent (e :: cs) =
    if e = 'e' ∨ e = 'E' then
      if (spanDigits (spanSign cs).2).1.isEmpty then ([], e :: cs)
      else (e :: ((spanSign cs).1 ++ (spanDigits (spanSign cs).2).1), (spanDigits (spanSign cs).2).2)
    else ([], e :: cs) := rfl

lemma spanExponent_append (h : EndsNumber rest) (cs : List Char) :
    spanExponent (cs ++ rest) = ((spanExponent cs).1, (spanExponent cs).2 ++ rest) := by
  cases cs with
  | nil =>
    cases rest with
    | nil => rfl
    | cons c tail =>
      have hletter : ¬(c = 'e' ∨ c = 'E') := by
        rintro (rfl | rfl)
        · exact h.head?_ne (.inr (by decide)) rfl
        · exact h.head?_ne (.inr (by decide)) rfl
      rw [List.nil_append, spanExponent_cons, if_neg hletter]
      rfl
  | cons e cs =>
    rw [List.cons_append, spanExponent_cons, spanExponent_cons, spanSign_append h,
      spanDigits_append h]
    split_ifs
    · rfl
    · rfl
    · rfl

end Numbers

/-! ### Scanners -/

/-- What was read, with more left of the text. -/
def leaving {α : Type} (ws : List Char) (read : Except DecodeError (Read α)) :
    Except DecodeError (Read α) := read.map fun r => (r.1, r.2 ++ ws)

@[simp] lemma leaving_ok {α : Type} (ws : List Char) (a : α) (rest : List Char) :
    leaving ws (.ok (a, rest)) = .ok (a, rest ++ ws) := rfl

@[simp] lemma leaving_error {α : Type} (ws : List Char) (e : DecodeError) :
    leaving ws (.error e : Except DecodeError (Read α)) = .error e := rfl

/-- What follows a number does not change how it is read. -/
lemma scanUnsigned_append {python : Interpreter} {rest : List Char} (h : EndsNumber rest)
    (sign cs : List Char) : scanUnsigned python sign (cs ++ rest) =
      leaving rest (scanUnsigned python sign cs) := by
  unfold scanUnsigned
  simp only [spanInteger_append h, spanFraction_append h, spanExponent_append h]
  split_ifs
  · rfl
  · rfl
  · rfl
  · rfl
  · rfl

lemma scanNumber_append {python : Interpreter} {rest : List Char} (h : EndsNumber rest)
    (cs : List Char) :
    scanNumber python (cs ++ rest) = leaving rest (scanNumber python cs) := by
  have hcons : ∀ ds : List Char, ds.head? ≠ some '-' →
      scanNumber python ds = scanUnsigned python [] ds := by
    intro ds hds
    unfold scanNumber
    split
    · exact absurd rfl hds
    · rfl
  cases cs with
  | nil =>
    rw [List.nil_append, hcons rest (h.head?_ne (.inr (by decide))), hcons [] (by simp)]
    exact scanUnsigned_append h [] []
  | cons c cs =>
    by_cases hc : c = '-'
    · subst hc
      exact scanUnsigned_append h ['-'] cs
    · have hne : ∀ ds : List Char, (c :: ds).head? ≠ some '-' := fun ds heq =>
        hc (Option.some.inj heq)
      rw [List.cons_append, hcons _ (hne _), hcons _ (hne _), ← List.cons_append]
      exact scanUnsigned_append h [] (c :: cs)

/-! ### Space -/

/-- JSON's whitespace -/
def AreSpaces (ws : List Char) : Prop := ∀ c ∈ ws, c ∈ [' ', '\t', '\n', '\r']

section Space

variable {python : Interpreter} {ws cs : List Char}

lemma AreSpaces.endsNumber (h : AreSpaces ws) : EndsNumber ws := by
  have hend : ∀ d ∈ [' ', '\t', '\n', '\r'],
      d.isDigit = false ∧ d ∉ ['.', '+', '-', 'e', 'E'] := by decide
  exact fun c hc => hend c (h c (List.mem_of_mem_head? hc))

lemma skipSpace_eq_nil (h : AreSpaces ws) : skipSpace ws = [] := by
  rw [skipSpace, List.dropWhile_eq_nil_iff]
  intro c hc
  have hspace : ∀ d ∈ [' ', '\t', '\n', '\r'],
      (d = ' ' || d = '\t' || d = '\n' || d = '\r') = true := by decide
  exact hspace c (h c hc)

lemma skipSpace_append (h : AreSpaces ws) (cs : List Char) :
    skipSpace (cs ++ ws) = if skipSpace cs = [] then [] else skipSpace cs ++ ws := by
  have hnil := skipSpace_eq_nil h
  unfold skipSpace at hnil ⊢
  rw [List.dropWhile_append, hnil]
  simp only [List.isEmpty_iff]

lemma AreSpaces.cases {c : Char} (h : AreSpaces (c :: ws)) :
    (c = ' ' ∨ c = '\t' ∨ c = '\n' ∨ c = '\r') ∧ AreSpaces ws := by
  obtain ⟨hc, hws⟩ := List.forall_mem_cons.mp h
  exact ⟨by simpa using hc, hws⟩

lemma scanUnits_spaces (h : AreSpaces ws) : scanUnits ws = none := by
  induction ws with
  | nil => rfl
  | cons c ws ih =>
    obtain ⟨hc, hws⟩ := h.cases
    have hrest := ih hws
    obtain rfl | rfl | rfl | rfl := hc <;> simp [scanUnits, hrest]

lemma lookup_escapes {c : Char} (hc : c ∈ ['u', ' ', '\t', '\n', '\r']) :
    escapes.lookup c = none := by
  have hnone : ∀ d ∈ ['u', ' ', '\t', '\n', '\r'], escapes.lookup d = none := by decide
  exact hnone c hc

/-- A backslash with nothing but space after it escapes nothing. -/
lemma scanUnits_backslash (h : AreSpaces ws) : scanUnits ('\\' :: ws) = none := by
  cases ws with
  | nil => rfl
  | cons c ws =>
    have hlookup := lookup_escapes (.tail _ (h c (.head _)))
    obtain ⟨hc, -⟩ := h.cases
    obtain rfl | rfl | rfl | rfl := hc <;> simp [scanUnits, hlookup]

lemma hexValue?_space {c : Char} (hc : c = ' ' ∨ c = '\t' ∨ c = '\n' ∨ c = '\r') :
    hexValue? c = none := by
  obtain rfl | rfl | rfl | rfl := hc <;> decide

/-- Space among the four digits of an escape. -/
lemma codeUnit?_eq_none {a b c d : Char}
    (h : hexValue? a = none ∨ hexValue? b = none ∨ hexValue? c = none ∨ hexValue? d = none) :
    codeUnit? a b c d = none := by
  unfold codeUnit?
  obtain h | h | h | h := h <;> simp [h]

/-- An escape whose digits are cut off by space at the end is none. -/
lemma scanUnits_unit_spaces (h : AreSpaces ws) {cs : List Char} (hcs : cs.length < 4) :
    scanUnits ('\\' :: 'u' :: (cs ++ ws)) = none := by
  have hshort : ∀ ds : List Char, ds.length < 4 → scanUnits ('\\' :: 'u' :: ds) = none := by
    intro ds hds
    have hlookup := lookup_escapes (c := 'u') (by decide)
    match ds, hds with
    | [], _ | [_], _ | [_, _], _ | [_, _, _], _ => simp [scanUnits, hlookup]
  by_cases hlength : (cs ++ ws).length < 4
  · exact hshort _ hlength
  · -- one of the digits is a space
    obtain ⟨a, b, c, d, tail, heq⟩ : ∃ a b c d tail, cs ++ ws = a :: b :: c :: d :: tail := by
      match hds : cs ++ ws, hlength with
      | a :: b :: c :: d :: tail, _ => exact ⟨a, b, c, d, tail, rfl⟩
      | [], h | [_], h | [_, _], h | [_, _, _], h => exact absurd (by simp) h
    have hspace : ∃ i, cs.length ≤ i ∧ i < 4 := ⟨3, by omega, by omega⟩
    have hd : d ∈ ws := by
      have hget : (cs ++ ws)[3]? = some d := by rw [heq]; rfl
      rw [List.getElem?_append_right (by omega)] at hget
      exact List.mem_of_getElem? hget
    have hnone : codeUnit? a b c d = none :=
      codeUnit?_eq_none (.inr (.inr (.inr (hexValue?_space (by simpa using h d hd)))))
    rw [heq, scanUnits, hnone]
    rfl

lemma scanUnits_append (h : AreSpaces ws) (cs : List Char) :
    scanUnits (cs ++ ws) = (scanUnits cs).map fun r => (r.1, r.2 ++ ws) := by
  fun_induction scanUnits cs with
  | case1 => exact scanUnits_spaces h
  | case2 cs => rfl
  | case3 a b c d cs ih =>
    rw [List.cons_append, List.cons_append, List.cons_append, List.cons_append, List.cons_append,
      List.cons_append, scanUnits, ih]
    cases codeUnit? a b c d with
    | none => rfl
    | some unit => cases scanUnits cs <;> rfl
  | case4 c cs hne ih =>
    have hrun : c ≠ 'u' → ∀ ds, scanUnits ('\\' :: c :: ds) = (escapes.lookup c >>= fun unit =>
        scanUnits ds >>= fun r => some (unit :: r.1, r.2)) := by
      intro hc ds
      rw [scanUnits]
      · rfl
      · rintro _ _ _ _ _ rfl
        exact fun _ => hc rfl
    by_cases hc : c = 'u'
    · subst hc
      have hlength : cs.length < 4 := by
        by_contra hlength
        match cs, hlength with
        | a :: b :: c :: d :: tail, _ => exact hne a b c d tail rfl rfl
        | [], h | [_], h | [_, _], h | [_, _, _], h => exact h (by simp)
      rw [List.cons_append, List.cons_append, scanUnits_unit_spaces h hlength,
        lookup_escapes (by decide)]
      rfl
    · rw [List.cons_append, List.cons_append, hrun hc, ih]
      cases escapes.lookup c with
      | none => rfl
      | some unit => cases scanUnits cs <;> rfl
  | case5 c cs hquote hunit hescape ih =>
    by_cases hc : c = '\\'
    · subst hc
      obtain rfl : cs = [] := by
        cases cs with
        | nil => rfl
        | cons d ds => exact absurd rfl (hescape d ds rfl)
      exact (scanUnits_backslash h).trans rfl
    · have hrun : ∀ ds, scanUnits (c :: ds) = (guard (0x20 ≤ c.toNat) >>= fun _ =>
          scanUnits ds >>= fun r => some (c.toNat :: r.1, r.2)) := by
        intro ds
        rw [scanUnits]
        · rfl
        · exact hquote
        · exact fun _ _ _ _ _ heq => absurd heq hc
        · exact fun _ _ heq => absurd heq hc
      rw [List.cons_append, hrun, ih]
      by_cases hcontrol : 0x20 ≤ c.toNat
      · simp only [guard, hcontrol, if_true]
        cases scanUnits cs <;> rfl
      · simp only [guard, hcontrol, if_false]
        rfl

lemma scanString_append (h : AreSpaces ws) (cs : List Char) :
    scanString (cs ++ ws) = leaving ws (scanString cs) := by
  rw [scanString, scanUnits_append h, scanString]
  cases scanUnits cs <;> rfl

/-! ### Values -/

/-- What the values begin with that are no numbers. -/
def openings : List (List Char) :=
  ["\"".toList, "\x7b".toList, "[".toList, "null".toList, "true".toList, "false".toList,
    "NaN".toList, "Infinity".toList, "-Infinity".toList]

/-- Space does not go on with what a value begins with. -/
lemma opening_of_append (h : AreSpaces ws) {lead : List Char} (hlead : lead ∈ openings)
    (hpre : lead <+: cs ++ ws) : lead <+: cs := by
  obtain hle | hle := List.prefix_or_prefix_of_prefix hpre (List.prefix_append cs ws)
  · exact hle
  · obtain ⟨rest, rfl⟩ := hle
    have hrest : rest <+: ws := (List.prefix_append_right_inj _).mp hpre
    cases rest with
    | nil => rw [List.append_nil]
    | cons c rest =>
      -- no character of an opening is a space
      have hopening : ∀ l ∈ openings, ∀ d ∈ l, d ∉ [' ', '\t', '\n', '\r'] := by decide
      exact absurd (h c (hrest.subset (.head _))) (hopening _ hlead c (by simp))

lemma scanValue_of_no_opening {nested : Option (List Char → Except DecodeError (Read Json))}
    (h : ∀ lead ∈ openings, ¬lead <+: cs) : scanValue python nested cs = scanNumber python cs := by
  have hne : ∀ lead ∈ openings, ∀ rest, cs ≠ lead ++ rest :=
    fun lead hlead rest heq => h lead hlead ⟨rest, heq.symm⟩
  unfold scanValue
  split
  · exact absurd rfl (hne ['"'] (by decide) _)
  · exact absurd rfl (hne ['\x7b'] (by decide) _)
  · exact absurd rfl (hne ['['] (by decide) _)
  · exact absurd rfl (hne "null".toList (by decide) _)
  · exact absurd rfl (hne "true".toList (by decide) _)
  · exact absurd rfl (hne "false".toList (by decide) _)
  · exact absurd rfl (hne "NaN".toList (by decide) _)
  · exact absurd rfl (hne "Infinity".toList (by decide) _)
  · exact absurd rfl (hne "-Infinity".toList (by decide) _)
  · rfl

/-- The scanner reads a text as it does with space after it. -/
def Pads {α : Type} (ws : List Char) (scan : List Char → Except DecodeError (Read α)) : Prop :=
  ∀ cs, scan (cs ++ ws) = leaving ws (scan cs)

section Containers

variable {element : List Char → Except DecodeError (Read Json)}

lemma error_of_nil {α : Type} {scan : List Char → Except DecodeError (Read α)}
    (h : Consumes scan) : ∃ e, scan [] = .error e := by
  cases hscan : scan [] with
  | error e => exact ⟨e, rfl⟩
  | ok read =>
    obtain ⟨c, tail, heq, -⟩ := h [] read.1 read.2 hscan
    cases heq

/-- A scanner that begins behind the space. -/
lemma skipped_append {α : Type} {scan : List Char → Except DecodeError (Read α)}
    (h : AreSpaces ws) (hconsumes : Consumes scan) (hpads : Pads ws scan) (cs : List Char) :
    scan (skipSpace (cs ++ ws)) = leaving ws (scan (skipSpace cs)) := by
  rw [skipSpace_append h]
  split_ifs with hnil
  · obtain ⟨e, he⟩ := error_of_nil hconsumes
    rw [hnil, he, leaving_error]
  · exact hpads _

lemma scanElements_append (h : AreSpaces ws) (hconsumes : Consumes element)
    (hpads : Pads ws element) (fuel : ℕ) (cs : List Char) :
    scanElements element fuel (cs ++ ws) = leaving ws (scanElements element fuel cs) := by
  induction fuel generalizing cs with
  | zero => rfl
  | succ fuel ih =>
    simp only [scanElements, skipped_append h hconsumes hpads]
    cases element (skipSpace cs) with
    | error e => rfl
    | ok read =>
      obtain ⟨value, mid⟩ := read
      simp only [leaving_ok, bind, Except.bind, skipSpace_append h]
      cases hmid : skipSpace mid with
      | nil => rfl
      | cons c tail =>
        simp only [List.cons_ne_nil, if_false, List.cons_append]
        by_cases hclose : c = ']'
        · subst hclose
          rfl
        · by_cases hcomma : c = ','
          · subst hcomma
            show (scanElements element fuel (tail ++ ws) >>= fun r =>
              pure (value :: r.1, r.2)) = leaving ws (scanElements element fuel tail >>= fun r =>
                pure (value :: r.1, r.2))
            rw [ih]
            cases scanElements element fuel tail <;> rfl
          · simp [hclose, hcomma]

lemma scanArray_append (h : AreSpaces ws) (hconsumes : Consumes element)
    (hpads : Pads ws element) : Pads ws (scanArray element) := by
  intro cs
  have hrun : ∀ c (ds : List Char), c ≠ ']' → ∀ es, skipSpace es = c :: ds →
      scanArray element es = (scanElements element ((c :: ds).length + 1) (c :: ds)).map
        fun r => (.list r.1, r.2) := by
    intro c ds hc es hes
    unfold scanArray
    rw [hes]
    split
    · next heq => exact absurd (List.cons.inj heq).1 hc
    · cases scanElements element ((c :: ds).length + 1) (c :: ds) <;> rfl
  have hskip := skipSpace_append h cs
  cases hcs : skipSpace cs with
  | nil =>
    rw [hcs, if_pos rfl] at hskip
    obtain ⟨e, he⟩ := error_of_nil hconsumes
    have hnil : ∀ es, skipSpace es = [] → scanArray element es = .error e := by
      intro es hes
      unfold scanArray
      rw [hes]
      simp [scanElements, show skipSpace [] = [] from rfl, he, bind, Except.bind]
    rw [hnil _ hskip, hnil _ hcs, leaving_error]
  | cons c tail =>
    rw [hcs, if_neg (List.cons_ne_nil c tail), List.cons_append] at hskip
    by_cases hclose : c = ']'
    · subst hclose
      simp [scanArray, hskip, hcs]
    · have hfuel : ((c :: tail).length) < (c :: (tail ++ ws)).length + 1 := by
        simp only [List.length_cons, List.length_append]
        omega
      rw [hrun c _ hclose _ hskip, hrun c _ hclose _ hcs, ← List.cons_append,
        scanElements_append h hconsumes hpads, List.cons_append,
        scanElements_fuel hconsumes hfuel (Nat.lt_succ_self _)]
      cases scanElements element ((c :: tail).length + 1) (c :: tail) <;> rfl

lemma scanKey_append (h : AreSpaces ws) : Pads ws scanKey := by
  intro cs
  unfold scanKey
  rw [skipSpace_append h]
  cases skipSpace cs with
  | nil => rfl
  | cons c tail =>
    rw [if_neg (List.cons_ne_nil c tail), List.cons_append]
    by_cases hquote : c = '"'
    · subst hquote
      simp only [scanString_append h]
      cases scanString tail with
      | error e => rfl
      | ok read =>
        obtain ⟨key, mid⟩ := read
        simp only [leaving_ok, bind, Except.bind, skipSpace_append h]
        cases skipSpace mid with
        | nil => rfl
        | cons c tail =>
          simp only [List.cons_ne_nil, if_false, List.cons_append]
          by_cases hcolon : c = ':'
          · subst hcolon
            rfl
          · simp [hcolon]
    · simp [hquote]

lemma scanMembers_append (h : AreSpaces ws) (hconsumes : Consumes element)
    (hpads : Pads ws element) (fuel : ℕ) (d : Dict) (cs : List Char) :
    scanMembers element fuel d (cs ++ ws) = leaving ws (scanMembers element fuel d cs) := by
  induction fuel generalizing d cs with
  | zero => rfl
  | succ fuel ih =>
    simp only [scanMembers, scanKey_append h cs]
    cases scanKey cs with
    | error e => rfl
    | ok read =>
      obtain ⟨key, mid⟩ := read
      simp only [leaving_ok, bind, Except.bind, skipped_append h hconsumes hpads]
      cases element (skipSpace mid) with
      | error e => rfl
      | ok read =>
        obtain ⟨value, mid⟩ := read
        simp only [leaving_ok, skipSpace_append h]
        cases skipSpace mid with
        | nil => rfl
        | cons c tail =>
          simp only [List.cons_ne_nil, if_false, List.cons_append]
          by_cases hclose : c = '\x7d'
          · subst hclose
            rfl
          · by_cases hcomma : c = ','
            · subst hcomma
              exact ih _ _
            · simp [hclose, hcomma]

lemma scanObject_append (h : AreSpaces ws) (hconsumes : Consumes element)
    (hpads : Pads ws element) : Pads ws (scanObject element) := by
  intro cs
  have hrun : ∀ c (ds : List Char), c ≠ '\x7d' → ∀ es, skipSpace es = c :: ds →
      scanObject element es = (scanMembers element ((c :: ds).length + 1) [] (c :: ds)).map
        fun r => (.obj r.1, r.2) := by
    intro c ds hc es hes
    unfold scanObject
    rw [hes]
    split
    · next heq => exact absurd (List.cons.inj heq).1 hc
    · cases scanMembers element ((c :: ds).length + 1) [] (c :: ds) <;> rfl
  have hskip := skipSpace_append h cs
  cases hcs : skipSpace cs with
  | nil =>
    rw [hcs, if_pos rfl] at hskip
    have hnil : ∀ es, skipSpace es = [] → scanObject element es = .error .jsonDecodeError := by
      intro es hes
      unfold scanObject
      rw [hes]
      rfl
    rw [hnil _ hskip, hnil _ hcs, leaving_error]
  | cons c tail =>
    rw [hcs, if_neg (List.cons_ne_nil c tail), List.cons_append] at hskip
    by_cases hclose : c = '\x7d'
    · subst hclose
      simp [scanObject, hskip, hcs]
    · have hfuel : ((c :: tail).length) < (c :: (tail ++ ws)).length + 1 := by
        simp only [List.length_cons, List.length_append]
        omega
      rw [hrun c _ hclose _ hskip, hrun c _ hclose _ hcs, ← List.cons_append,
        scanMembers_append h hconsumes hpads, List.cons_append,
        scanMembers_fuel hconsumes [] hfuel (Nat.lt_succ_self _)]
      cases scanMembers element ((c :: tail).length + 1) [] (c :: tail) <;> rfl

end Containers

lemma scanValue_append (h : AreSpaces ws)
    {nested : Option (List Char → Except DecodeError (Read Json))}
    (hnested : ∀ element ∈ nested, Consumes element ∧ Pads ws element) :
    Pads ws (scanValue python nested) := by
  intro cs
  by_cases hopening : ∃ lead ∈ openings, lead <+: cs
  · obtain ⟨lead, hlead, rest, rfl⟩ := hopening
    rw [List.append_assoc]
    simp only [openings, List.mem_cons, List.not_mem_nil, or_false] at hlead
    obtain rfl | rfl | rfl | rfl | rfl | rfl | rfl | rfl | rfl := hlead
    · show (scanString (rest ++ ws) >>= _) = leaving ws (scanString rest >>= _)
      rw [scanString_append h]
      cases scanString rest <;> rfl
    · show nested.elim _ _ = leaving ws (nested.elim _ _)
      cases nested with
      | none => rfl
      | some element =>
        obtain ⟨hconsumes, hpads⟩ := hnested element rfl
        exact scanObject_append h hconsumes hpads rest
    · show nested.elim _ _ = leaving ws (nested.elim _ _)
      cases nested with
      | none => rfl
      | some element =>
        obtain ⟨hconsumes, hpads⟩ := hnested element rfl
        exact scanArray_append h hconsumes hpads rest
    all_goals rfl
  · have hnone : ∀ lead ∈ openings, ¬lead <+: cs := fun lead hlead hpre =>
      hopening ⟨lead, hlead, hpre⟩
    rw [scanValue_of_no_opening hnone, scanValue_of_no_opening fun lead hlead hpre =>
      hnone lead hlead (opening_of_append h hlead hpre)]
    exact scanNumber_append h.endsNumber cs

lemma scanOnce_append (h : AreSpaces ws) (depth : ℕ) : Pads ws (scanOnce python depth) := by
  induction depth with
  | zero => exact scanValue_append h (by simp)
  | succ depth ih =>
    refine scanValue_append h fun element helement => ?_
    cases helement
    exact ⟨consumes_scanOnce depth, ih⟩

/-- Space at the end of a text does not change what the text is decoded as. -/
theorem loads_append (python : Interpreter) (h : AreSpaces ws) (cs : List Char) :
    loads python (String.ofList (cs ++ ws)) = loads python (String.ofList cs) := by
  simp only [loads, String.toList_ofList,
    skipped_append h (consumes_scanOnce python.maxDepth) (scanOnce_append h python.maxDepth)]
  cases scanOnce python python.maxDepth (skipSpace cs) with
  | error e => rfl
  | ok read =>
    obtain ⟨value, rest⟩ := read
    simp only [leaving_ok, bind, Except.bind, skipSpace_append h]
    cases skipSpace rest <;> simp

end Space

end Json
end AiHq
