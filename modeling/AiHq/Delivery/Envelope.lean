import AiHq.Delivery.ModelAgents
import AiHq.Python.Padding

/-!
# JSON in a fence

The reply of a model is accepted if it is a JSON object, or a JSON object in one Markdown fence. The
pattern for the fence takes the shortest body, which may leave out space at the end of the object,
but never more than that: it is the last three backticks that close the fence.
-/

namespace AiHq

open Json

namespace ModelAgents

/-- `text` is that of a JSON object. -/
def IsObject (python : Interpreter) (text : String) : Prop := ∃ d, loads python text = .ok (.obj d)

instance (python : Interpreter) (text : String) : Decidable (IsObject python text) :=
  decidable_of_iff ((match loads python text with | .ok (.obj _) => true | _ => false) = true) (by
    unfold IsObject
    split
    · rename_i d hloads
      simp [hloads]
    · rename_i hobj
      simpa using hobj)

/-- The line that opens a fence, with space before it. -/
def Opens (opening : List Char) : Prop :=
  ∃ lead tag blanks newline, opening = lead ++ (fence ++ (tag ++ (blanks ++ newline))) ∧
    (∀ c ∈ lead, isSpace c = true) ∧ tag ∈ [[], "json".toList] ∧
    (∀ c ∈ blanks, isBlank c = true) ∧ newline ∈ [['\n'], ['\r', '\n']]

/-- The end of the last line and what closes the fence, with space after it. -/
def Closes (closing : List Char) : Prop :=
  ∃ lineEnd indent trail, closing = lineEnd ++ (indent ++ (fence ++ trail)) ∧
    lineEnd ∈ [[], ['\r'], ['\n'], ['\r', '\n']] ∧ (∀ c ∈ indent, isBlank c = true) ∧
    ∀ c ∈ trail, isSpace c = true

/-- What stands around a text in a Markdown fence. -/
structure Fence where
  opening : List Char
  closing : List Char
  opens : Opens opening
  closes : Closes closing

/-- `s` in the fence -/
def Fence.wrap (f : Fence) (s : String) : String :=
  String.ofList (f.opening ++ (s.toList ++ f.closing))

variable {python : Interpreter}

/-! ### The parts of the pattern -/

lemma stripLead?_eq_some {lead cs rest : List Char} :
    stripLead? lead cs = some rest ↔ cs = lead ++ rest := by
  induction lead generalizing cs with
  | nil => simp [stripLead?]
  | cons c lead ih =>
    cases cs with
    | nil => simp [stripLead?]
    | cons d cs =>
      by_cases h : c = d
      · simp [stripLead?, h, ih]
      · simp [stripLead?, h, Ne.symm h]

lemma dropWhile_append_cons {p : Char → Bool} {cs : List Char} {d : Char}
    (hcs : ∀ c ∈ cs, p c = true) (hd : p d = false) (rest : List Char) :
    (cs ++ d :: rest).dropWhile p = d :: rest := by
  rw [List.dropWhile_append_of_pos hcs, List.dropWhile_cons_of_neg (by simp [hd])]

/-- A text whose first character is not of a class, after some that are. -/
lemma exists_dropWhile_eq {p : Char → Bool} {cs rest : List Char} (h : cs.dropWhile p = rest) :
    ∃ front, cs = front ++ rest ∧ ∀ c ∈ front, p c = true :=
  ⟨cs.takeWhile p, by rw [← h, List.takeWhile_append_dropWhile],
    fun _ hc => List.mem_takeWhile_imp hc⟩

lemma exists_skipChar_eq (c : Char) (cs : List Char) :
    ∃ front ∈ [[], [c]], cs = front ++ skipChar c cs := by
  cases cs with
  | nil => exact ⟨[], by simp, rfl⟩
  | cons d cs =>
    by_cases h : d = c
    · exact ⟨[c], by simp, by rw [skipChar, if_pos h, h]; rfl⟩
    · exact ⟨[], by simp, by rw [skipChar, if_neg h]; rfl⟩

lemma skipChar_of_ne {c : Char} {cs : List Char} (h : cs.head? ≠ some c) : skipChar c cs = cs := by
  cases cs with
  | nil => rfl
  | cons d cs => exact if_neg fun hd => h (congrArg some hd)

/-! ### The opening fence -/

lemma openFence?_append {opening : List Char} (h : Opens opening) (cs : List Char) :
    openFence? (opening ++ cs) = some cs := by
  obtain ⟨lead, tag, blanks, newline, rfl, hlead, htag, hblanks, hnewline⟩ := h
  have hfence : (lead ++ (fence ++ (tag ++ (blanks ++ newline))) ++ cs).dropWhile isSpace =
      fence ++ (tag ++ (blanks ++ (newline ++ cs))) := by
    simp only [List.append_assoc]
    exact dropWhile_append_cons hlead (by decide) _
  have hplain : stripLead? "json".toList (blanks ++ (newline ++ cs)) = none := by
    cases blanks with
    | nil =>
      obtain rfl | rfl : newline = ['\n'] ∨ newline = ['\r', '\n'] := by simpa using hnewline
      all_goals rfl
    | cons c blanks =>
      have hc : c ≠ 'j' := by
        rintro rfl
        exact absurd (hblanks 'j' (.head _)) (by decide)
      exact if_neg hc.symm
  have hjson : (stripLead? "json".toList (tag ++ (blanks ++ (newline ++ cs)))).getD
      (tag ++ (blanks ++ (newline ++ cs))) = blanks ++ (newline ++ cs) := by
    obtain rfl | rfl : tag = [] ∨ tag = "json".toList := by simpa using htag
    · rw [List.nil_append, hplain, Option.getD_none]
    · rw [stripLead?_eq_some.mpr rfl, Option.getD_some]
  simp only [openFence?, hfence, stripLead?_eq_some.mpr rfl, Option.bind_eq_bind,
    Option.bind_some, hjson]
  obtain rfl | rfl : newline = ['\n'] ∨ newline = ['\r', '\n'] := by simpa using hnewline
  · rw [List.cons_append, dropWhile_append_cons hblanks (by decide)]
    rfl
  · rw [List.cons_append, dropWhile_append_cons hblanks (by decide)]
    rfl

lemma exists_of_openFence? {cs rest : List Char} (h : openFence? cs = some rest) :
    ∃ opening, Opens opening ∧ cs = opening ++ rest := by
  simp only [openFence?, Option.bind_eq_bind, Option.bind_eq_some_iff, stripLead?_eq_some] at h
  obtain ⟨tagged, hfence, hnewline⟩ := h
  obtain ⟨lead, hcs, hlead⟩ := exists_dropWhile_eq hfence
  obtain ⟨tag, htag, htagged⟩ : ∃ tag ∈ [[], "json".toList],
      tagged = tag ++ (stripLead? "json".toList tagged).getD tagged := by
    cases hjson : stripLead? "json".toList tagged with
    | none => exact ⟨[], by simp, rfl⟩
    | some rest => exact ⟨"json".toList, by simp, stripLead?_eq_some.mp hjson⟩
  set untagged := (stripLead? "json".toList tagged).getD tagged
  obtain ⟨blanks, hblanked, hblanks⟩ : ∃ blanks, untagged = blanks ++ untagged.dropWhile isBlank ∧
      ∀ c ∈ blanks, isBlank c = true := exists_dropWhile_eq rfl
  obtain ⟨cr, hcr, hskip⟩ := exists_skipChar_eq '\r' (untagged.dropWhile isBlank)
  refine ⟨lead ++ (fence ++ (tag ++ (blanks ++ (cr ++ ['\n'])))),
    ⟨lead, tag, blanks, cr ++ ['\n'], rfl, hlead, htag, hblanks, ?_⟩, ?_⟩
  · obtain rfl | rfl : cr = [] ∨ cr = ['\r'] := by simpa using hcr
    all_goals simp
  · rw [hcs, htagged, hblanked, hskip, hnewline]
    simp

/-! ### The closing fence -/

lemma closesFence_iff {cs : List Char} : closesFence cs = true ↔ Closes cs := by
  constructor
  · intro h
    unfold closesFence at h
    cases hfence : stripLead? fence ((skipChar '\n' (skipChar '\r' cs)).dropWhile isBlank) with
    | none =>
      rw [hfence] at h
      cases h
    | some trail =>
      rw [hfence] at h
      obtain ⟨cr, hcr, hskip⟩ := exists_skipChar_eq '\r' cs
      obtain ⟨lf, hlf, hskip'⟩ := exists_skipChar_eq '\n' (skipChar '\r' cs)
      obtain ⟨indent, hindented, hindent⟩ :=
        exists_dropWhile_eq (stripLead?_eq_some.mp hfence)
      refine ⟨cr ++ lf, indent, trail, ?_, ?_, hindent, List.all_eq_true.mp h⟩
      · rw [hskip, hskip', hindented, List.append_assoc]
      · obtain rfl | rfl : cr = [] ∨ cr = ['\r'] := by simpa using hcr
        all_goals
          obtain rfl | rfl : lf = [] ∨ lf = ['\n'] := by simpa using hlf
          all_goals simp
  · rintro ⟨lineEnd, indent, trail, rfl, hline, hindent, htrail⟩
    have hhead : ∀ c ∈ ['\r', '\n'], (indent ++ (fence ++ trail)).head? ≠ some c := by
      intro c hc hhead
      have hclosed : c = '`' ∨ isBlank c = true := by
        cases indent with
        | nil => exact .inl (Option.some.inj hhead).symm
        | cons d indent => exact .inr (Option.some.inj hhead ▸ hindent d (.head _))
      have hnone : ∀ d ∈ ['\r', '\n'], ¬(d = '`' ∨ isBlank d = true) := by decide
      exact hnone c hc hclosed
    have hdrop : (skipChar '\n' (skipChar '\r'
        (lineEnd ++ (indent ++ (fence ++ trail))))).dropWhile isBlank = fence ++ trail := by
      have hcr := skipChar_of_ne (hhead '\r' (by decide))
      have hlf := skipChar_of_ne (hhead '\n' (by decide))
      have hskip : skipChar '\n' (skipChar '\r' (lineEnd ++ (indent ++ (fence ++ trail)))) =
          indent ++ (fence ++ trail) := by
        simp only [List.mem_cons, List.not_mem_nil, or_false] at hline
        obtain rfl | rfl | rfl | rfl := hline
        · rw [List.nil_append, hcr, hlf]
        · exact hlf
        · rfl
        · rfl
      rw [hskip]
      exact dropWhile_append_cons hindent (by decide) _
    rw [closesFence, hdrop, stripLead?_eq_some.mpr rfl]
    exact List.all_eq_true.mpr htrail

/-- The body ends at the first place from where the fence is closed. -/
lemma untilClosed?_append {rest : List Char} (h : closesFence rest = true) (cs : List Char) :
    ∃ body ws, untilClosed? (cs ++ rest) = some body ∧ cs = body ++ ws ∧
      closesFence (ws ++ rest) = true := by
  induction cs with
  | nil =>
    cases rest with
    | nil => cases h
    | cons c rest => exact ⟨[], [], by rw [List.nil_append, untilClosed?, if_pos h], rfl, h⟩
  | cons c cs ih =>
    by_cases hclose : closesFence (c :: (cs ++ rest)) = true
    · exact ⟨[], c :: cs, by rw [List.cons_append, untilClosed?, if_pos hclose], rfl, hclose⟩
    · obtain ⟨body, ws, hbody, rfl, hws⟩ := ih
      exact ⟨c :: body, ws, by rw [List.cons_append, untilClosed?, if_neg hclose, hbody]; rfl, rfl,
        hws⟩

lemma exists_of_untilClosed? {cs body : List Char} (h : untilClosed? cs = some body) :
    ∃ rest, cs = body ++ rest ∧ closesFence rest = true := by
  induction cs generalizing body with
  | nil => cases h
  | cons c cs ih =>
    unfold untilClosed? at h
    split at h
    · rename_i hclose
      cases h
      exact ⟨c :: cs, rfl, hclose⟩
    · obtain ⟨body, hbody, rfl⟩ := Option.map_eq_some_iff.mp h
      obtain ⟨rest, rfl, hrest⟩ := ih hbody
      exact ⟨rest, rfl, hrest⟩

/-! ### The body -/

lemma Closes.eq_append {closing : List Char} (h : Closes closing) : ∃ front trail,
    closing = front ++ fence ++ trail ∧ AreSpaces front ∧ ∀ c ∈ trail, isSpace c = true := by
  obtain ⟨lineEnd, indent, trail, rfl, hline, hindent, htrail⟩ := h
  refine ⟨lineEnd ++ indent, trail, by simp, fun c hc => ?_, htrail⟩
  obtain hc | hc := List.mem_append.mp hc
  · have hends : ∀ l ∈ [[], ['\r'], ['\n'], ['\r', '\n']], ∀ d ∈ l,
        d ∈ [' ', '\t', '\n', '\r'] := by decide
    exact hends lineEnd hline c hc
  · have hblank := hindent c hc
    simp only [isBlank, Bool.or_eq_true, decide_eq_true_eq] at hblank
    obtain rfl | rfl := hblank <;> decide

/-- The last backticks close the fence, so that there is nothing but space between two places from
where it is closed. -/
lemma areSpaces_of_closes {ws closing : List Char} (h : Closes closing)
    (hws : Closes (ws ++ closing)) : AreSpaces ws := by
  obtain ⟨front, trail, rfl, hfront, htrail⟩ := h.eq_append
  obtain ⟨front', trail', heq, hfront', htrail'⟩ := hws.eq_append
  have hlast : ∀ (cs trail : List Char), (∀ c ∈ trail, isSpace c = true) →
      (cs ++ fence ++ trail).rdropWhile isSpace = cs ++ fence := by
    intro cs trail htrail
    have hdrop : (trail.reverse ++ '`' :: ('`' :: '`' :: cs.reverse)).dropWhile isSpace =
        '`' :: '`' :: '`' :: cs.reverse :=
      dropWhile_append_cons (fun c hc => htrail c (List.mem_reverse.mp hc)) (by decide) _
    have hreverse : (cs ++ fence ++ trail).reverse =
        trail.reverse ++ '`' :: ('`' :: '`' :: cs.reverse) := by simp [fence]
    rw [List.rdropWhile, hreverse, hdrop]
    simp [fence]
  have hcut := congrArg (List.rdropWhile isSpace) heq
  rw [← List.append_assoc, ← List.append_assoc, hlast _ _ htrail, hlast _ _ htrail'] at hcut
  have hfronts : ws ++ front = front' := List.append_cancel_right hcut
  exact fun c hc => hfront' c (hfronts ▸ List.mem_append_left _ hc)

/-- The body of a fenced text is decoded as the text is. -/
lemma exists_fencedBody? (python : Interpreter) (f : Fence) (s : String) :
    ∃ body, fencedBody? (f.wrap s) = some body ∧ loads python body = loads python s := by
  obtain ⟨body, ws, hbody, hs, hws⟩ :=
    untilClosed?_append (closesFence_iff.mpr f.closes) s.toList
  refine ⟨String.ofList body, ?_, ?_⟩
  · rw [fencedBody?, Fence.wrap, String.toList_ofList, openFence?_append f.opens,
      Option.bind_some, hbody, Option.map_some]
  · have hspaces := areSpaces_of_closes f.closes (closesFence_iff.mp hws)
    rw [← loads_append python hspaces body, ← hs, String.ofList_toList]

lemma exists_of_fencedBody? {raw body : String} (h : fencedBody? raw = some body) :
    ∃ f : Fence, raw = f.wrap body := by
  obtain ⟨cs, hcs, rfl⟩ := Option.map_eq_some_iff.mp h
  obtain ⟨rest, hopen, hbody⟩ := Option.bind_eq_some_iff.mp hcs
  obtain ⟨opening, hopens, hraw⟩ := exists_of_openFence? hopen
  obtain ⟨closing, rfl, hclose⟩ := exists_of_untilClosed? hbody
  refine ⟨⟨opening, closing, hopens, closesFence_iff.mp hclose⟩, ?_⟩
  rw [Fence.wrap, String.toList_ofList, ← hraw, String.ofList_toList]

/-! ### The envelope -/

/-- No value begins with space or with a backtick. -/
lemma scanOnce_of_isSpace {c : Char} (hc : isSpace c = true ∨ c = '`') (depth : ℕ)
    (cs : List Char) : scanOnce python depth (c :: cs) = .error .jsonDecodeError := by
  have hopening : ∀ d ∈ openings.filterMap List.head?, ¬(isSpace d = true ∨ d = '`') := by decide
  have hnone : ∀ lead ∈ openings, ¬lead <+: c :: cs := by
    intro lead hlead hpre
    have hne : ∀ l ∈ openings, l ≠ [] := by decide
    obtain ⟨d, tail, rfl⟩ := List.exists_cons_of_ne_nil (hne lead hlead)
    obtain rfl := (List.cons_prefix_cons.mp hpre).1
    exact hopening d (List.mem_filterMap.mpr ⟨_, hlead, rfl⟩) hc
  have hdigit : c.isDigit = false := by
    rw [Bool.eq_false_iff]
    intro hdigit
    have hrange : 48 ≤ c.toNat ∧ c.toNat ≤ 57 := Char.isDigit_iff_toNat.mp hdigit
    obtain hc | rfl := hc
    · simp only [isSpace, List.mem_cons, List.not_mem_nil, or_false, Bool.or_eq_true,
        decide_eq_true_eq, Bool.and_eq_true] at hc
      omega
    · cases hdigit
  have hspan : spanInteger (c :: cs) = ([], c :: cs) := by
    unfold spanInteger
    split
    · rename_i heq
      obtain rfl := (List.cons.inj heq).1
      cases hdigit
    · rw [spanDigits, List.takeWhile_cons_of_neg (by simp [hdigit]),
        List.dropWhile_cons_of_neg (by simp [hdigit])]
  have hvalue : ∀ nested, scanValue python nested (c :: cs) = .error .jsonDecodeError := by
    intro nested
    rw [scanValue_of_no_opening hnone]
    have hunsigned : scanUnsigned python [] (c :: cs) = .error .jsonDecodeError := by
      rw [scanUnsigned, hspan]
      rfl
    unfold scanNumber
    split
    · rename_i heq
      obtain rfl := (List.cons.inj heq).1
      exact absurd hc (by decide)
    · exact hunsigned
  cases depth with
  | zero => exact hvalue _
  | succ depth => exact hvalue _

lemma exists_skipSpace_eq {lead : List Char} (hlead : ∀ c ∈ lead, isSpace c = true)
    (rest : List Char) : ∃ c cs, skipSpace (lead ++ '`' :: rest) = c :: cs ∧
      (isSpace c = true ∨ c = '`') := by
  induction lead with
  | nil => exact ⟨'`', rest, rfl, .inr rfl⟩
  | cons d lead ih =>
    by_cases hd : (d = ' ' || d = '\t' || d = '\n' || d = '\r') = true
    · obtain ⟨c, cs, hskip, hc⟩ := ih fun c hc => hlead c (.tail _ hc)
      refine ⟨c, cs, ?_, hc⟩
      rw [← hskip]
      exact List.dropWhile_cons_of_pos hd
    · refine ⟨d, lead ++ '`' :: rest, ?_, .inl (hlead d (.head _))⟩
      exact List.dropWhile_cons_of_neg hd

/-- A fenced text is no JSON itself. -/
lemma loads_wrap (f : Fence) (s : String) : loads python (f.wrap s) = .error .jsonDecodeError := by
  obtain ⟨opening, closing, ⟨lead, tag, blanks, newline, rfl, hlead, -⟩, hcloses⟩ := f
  obtain ⟨c, cs, hskip, hc⟩ := exists_skipSpace_eq hlead
    ('`' :: '`' :: (tag ++ (blanks ++ newline)) ++ (s.toList ++ closing))
  have htext : (lead ++ (fence ++ (tag ++ (blanks ++ newline)))) ++ (s.toList ++ closing) =
      lead ++ '`' :: ('`' :: '`' :: (tag ++ (blanks ++ newline)) ++ (s.toList ++ closing)) := by
    simp [fence]
  rw [loads, Fence.wrap, String.toList_ofList, htext, hskip, scanOnce_of_isSpace hc]
  rfl

lemma parseJsonObject_eq_ok {text source : String} {d : Dict} :
    parseJsonObject python text source = .ok d ↔ loads python text = .ok (.obj d) := by
  unfold parseJsonObject
  split
  · rename_i hloads
    simp [hloads]
  · rename_i x hobj hloads
    simp only [hloads, reduceCtorEq, Except.ok.injEq, false_iff]
    rintro rfl
    exact hobj d rfl
  · rename_i hloads
    simp [hloads]
  · rename_i hloads
    simp [hloads]

lemma parseJsonEnvelope_of_object {text source : String} {d : Dict}
    (h : loads python text = .ok (.obj d)) : parseJsonEnvelope python text source = .ok d := by
  rw [parseJsonEnvelope, parseJsonObject_eq_ok.mpr h]

lemma parseJsonEnvelope_wrap (f : Fence) {s source : String} {d : Dict}
    (h : loads python s = .ok (.obj d)) :
    parseJsonEnvelope python (f.wrap s) source = .ok d := by
  obtain ⟨body, hbody, hloads⟩ := exists_fencedBody? python f s
  have hraw : parseJsonObject python (f.wrap s) source =
      .error (.valueError (source ++ " must return valid JSON")) := by
    rw [parseJsonObject, loads_wrap f s]
  rw [parseJsonEnvelope, hraw, hbody]
  exact parseJsonObject_eq_ok.mpr (hloads.trans h)

/-- What is accepted is a JSON object, or a JSON object in a fence, and the object in a fence is
the one that there is without it. -/
theorem envelope_iff (python : Interpreter) (source : String) :
    (∀ raw d, parseJsonEnvelope python raw source = .ok d ↔ loads python raw = .ok (.obj d) ∨
      ∃ (f : Fence) (s : String), raw = f.wrap s ∧ loads python s = .ok (.obj d)) ∧
    ∀ (f : Fence) (s : String), IsObject python s →
      parseJsonEnvelope python (f.wrap s) source = parseJsonEnvelope python s source := by
  refine ⟨fun raw d => ⟨fun h => ?_, ?_⟩, ?_⟩
  · unfold parseJsonEnvelope at h
    split at h
    · split at h
      · cases h
      · rename_i body hbody
        obtain ⟨f, rfl⟩ := exists_of_fencedBody? hbody
        exact .inr ⟨f, body, rfl, parseJsonObject_eq_ok.mp h⟩
    · exact .inl (parseJsonObject_eq_ok.mp h)
  · rintro (h | ⟨f, s, rfl, h⟩)
    · exact parseJsonEnvelope_of_object h
    · exact parseJsonEnvelope_wrap f h
  · rintro f s ⟨d, h⟩
    rw [parseJsonEnvelope_wrap f h, parseJsonEnvelope_of_object h]

/-- The fence "```json". -/
def jsonFence : Fence where
  opening := "```json\n".toList
  closing := "\n```".toList
  opens := ⟨[], "json".toList, [], ['\n'], by decide +kernel⟩
  closes := ⟨['\n'], [], [], by decide +kernel⟩

/-- An object with fences in a string is read as without the fence around it. -/
theorem envelope_iff_quoted :
    parseJsonEnvelope ⟨1, 1, fun _ => (0, "0")⟩
      (jsonFence.wrap "\x7b\"summary\": \"```\\n```\"\x7d") "Developer" =
    parseJsonEnvelope ⟨1, 1, fun _ => (0, "0")⟩ "\x7b\"summary\": \"```\\n```\"\x7d" "Developer" :=
  (envelope_iff ⟨1, 1, fun _ => (0, "0")⟩ "Developer").2 jsonFence _ (by decide +kernel)

end ModelAgents
end AiHq
