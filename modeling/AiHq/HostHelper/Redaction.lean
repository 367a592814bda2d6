import AiHq.HostHelper.Truncation

/-!
# Redaction of logs

The pattern for secrets is anchored at the start of a line. The lines that `journalctl` prints in
the format that is asked for start with a timestamp, so that it matches none of them.
-/

namespace AiHq

open Concurrent

namespace Redaction

def redacted : List Char := "[REDACTED]".toList

/-- A word at the start of a line of the journal. -/
def IsWord (word : String) : Prop :=
  word ≠ "" ∧ ∀ c ∈ word.toList, isSpace c = false ∧ c ≠ '='

/-- A line of `journalctl -o short-iso`. -/
structure JournalLine where
  timestamp : String
  host : String
  process : String
  message : String
  timestamp_word : IsWord timestamp
  host_word : IsWord host
  process_line : '\n' ∉ process.toList
  message_line : '\n' ∉ message.toList

def JournalLine.chars (line : JournalLine) : List Char :=
  line.timestamp.toList ++ ' ' :: (line.host.toList ++ ' ' ::
    (line.process.toList ++ ':' :: ' ' :: line.message.toList))

/-- What is printed of the lines. -/
def printed (lines : List JournalLine) : List Char :=
  lines.flatMap fun line => line.chars ++ ['\n']

/-- The lines of a text, as the pattern has them. -/
def textLines (cs : List Char) : List (List Char) := cs.splitOn '\n'

/-- A first part of a line that ends in the equals sign of an assignment to a secret. -/
def OpensSecret (head : List Char) : Prop :=
  ∃ before key space, head = before ++ key ++ space ++ ['='] ∧ namesSecret key = true ∧
    (∀ c ∈ key, isSpace c = false ∧ c ≠ '=') ∧ ∀ c ∈ space, isSpace c = true

/-- On every line of the output of which the text shows something, what follows the equals sign
of an assignment to a secret is redacted. A text that is truncated may end within its last line. -/
def Hides (stdout text : List Char) (truncated : Bool) : Prop :=
  ∀ i line shown, (textLines stdout)[i]? = some line → (textLines text)[i]? = some shown →
    ∀ head value, line = head ++ value → OpensSecret head →
      ∃ front, front <+: head ∧ (shown = front ++ redacted ∨
        truncated = true ∧ i + 1 = (textLines text).length ∧ shown <+: front ++ redacted)

/-- The text in a response hides the secrets of the output. -/
def HidesSecrets (stdout : List Char) (response : HelperResponse) : Prop :=
  ∃ text truncated, response.data = [("text", .str text), ("truncated", .bool truncated)] ∧
    Hides stdout text.toList truncated

/-- Nothing but the mark of redaction follows an assignment to a secret in what is printed, up to
the limit. -/
def Marked (stdout : List Char) : Prop :=
  let (text, truncated) := truncateUtf8 (String.ofList stdout)
  ∀ i line, (textLines text.toList)[i]? = some line →
    ∀ head value, line = head ++ value → OpensSecret head →
      value = redacted ∨
        truncated = true ∧ i + 1 = (textLines text.toList).length ∧ value <+: redacted

/-! ### Lines -/

section Lines

variable {l cs : List Char}

lemma textLines_of_notMem (h : '\n' ∉ l) : textLines l = [l] := List.splitOn_eq_singleton h

lemma textLines_append (h : '\n' ∉ l) : textLines (l ++ '\n' :: cs) = l :: textLines cs :=
  List.splitOn_append_cons_self_of_not_mem h _

/-- A text has one line, or a first line and others. -/
lemma line_cases (cs : List Char) :
    '\n' ∉ cs ∨ ∃ l rest, '\n' ∉ l ∧ cs = l ++ '\n' :: rest := by
  by_cases h : '\n' ∈ cs
  · obtain ⟨l, rest, hcs, hl⟩ := List.eq_append_cons_of_mem h
    exact .inr ⟨l, rest, hl, hcs⟩
  · exact .inl h

/-- The lines of a first part of a text are those of the text, but for the last one, of which
it may have a first part. -/
lemma line_of_prefix {i : ℕ} {text shown : List Char} (h : text <+: cs)
    (hshown : (textLines text)[i]? = some shown) :
    ∃ line, (textLines cs)[i]? = some line ∧ shown <+: line ∧
      (i + 1 = (textLines text).length ∨ shown = line) := by
  induction i generalizing text cs with
  | zero =>
    obtain ⟨more, rfl⟩ := h
    obtain htext | ⟨l, rest, hl, rfl⟩ := line_cases text
    · rw [textLines_of_notMem htext] at hshown ⊢
      obtain rfl : text = shown := by simpa using hshown
      obtain hmore | ⟨l, rest, hl, rfl⟩ := line_cases more
      · refine ⟨text ++ more, ?_, List.prefix_append _ _, .inl rfl⟩
        rw [textLines_of_notMem (by simp [htext, hmore])]
        rfl
      · refine ⟨text ++ l, ?_, List.prefix_append _ _, .inl rfl⟩
        rw [← List.append_assoc, textLines_append (by simp [htext, hl])]
        rfl
    · rw [textLines_append hl] at hshown ⊢
      obtain rfl : l = shown := by simpa using hshown
      refine ⟨l, ?_, List.prefix_rfl, .inr rfl⟩
      rw [List.append_assoc, List.cons_append, textLines_append hl]
      rfl
  | succ i ih =>
    obtain ⟨more, rfl⟩ := h
    obtain htext | ⟨l, rest, hl, rfl⟩ := line_cases text
    · rw [textLines_of_notMem htext] at hshown
      simp at hshown
    · rw [textLines_append hl] at hshown ⊢
      rw [List.append_assoc, List.cons_append, textLines_append hl]
      obtain ⟨line, hline, hpre, hlast⟩ := ih (List.prefix_append rest more) hshown
      exact ⟨line, hline, hpre, hlast.imp_left fun hlast => by simp [hlast]⟩

end Lines

/-! ### The pattern on lines of the journal -/

section Pattern

variable {word : String} {cs rest : List Char}

/-- A word does not start with a space or an equals sign. -/
lemma IsWord.exists_cons (h : IsWord word) :
    ∃ c rest, word.toList = c :: rest ∧ isSpace c = false ∧ c ≠ '=' := by
  obtain ⟨hne, hall⟩ := h
  cases hword : word.toList with
  | nil => exact absurd (String.toList_eq_nil_iff.mp hword) hne
  | cons c rest => exact ⟨c, rest, rfl, hall c (by simp [hword])⟩

lemma IsWord.dropWhile_isSpace (h : IsWord word) :
    (word.toList ++ cs).dropWhile isSpace = word.toList ++ cs := by
  obtain ⟨c, rest, hword, hspace, -⟩ := h.exists_cons
  rw [hword, List.cons_append, List.dropWhile_cons_of_neg (by simp [hspace])]

lemma IsWord.dropWhile_isName (h : IsWord word) :
    (word.toList ++ ' ' :: cs).dropWhile (fun c => c ≠ '=' && !isSpace c) = ' ' :: cs := by
  rw [List.dropWhile_append_of_pos fun c hc => by simp [h.2 c hc],
    List.dropWhile_cons_of_neg (by decide)]

/-- The first word of such a line is not followed by an equals sign. -/
lemma secretPrefix?_line (line : JournalLine) (cs : List Char) :
    secretPrefix? (line.chars ++ cs) = none := by
  obtain ⟨c, rest, hhost, -, hc⟩ := line.host_word.exists_cons
  have hspace : ∀ more, (' ' :: (line.host.toList ++ more)).dropWhile isSpace =
      c :: (rest ++ more) := by
    intro more
    rw [List.dropWhile_cons_of_pos (by decide), line.host_word.dropWhile_isSpace, hhost,
      List.cons_append]
  simp only [secretPrefix?, JournalLine.chars, List.append_assoc, List.cons_append,
    line.timestamp_word.dropWhile_isSpace, line.timestamp_word.dropWhile_isName, hspace]
  split
  · next heq => exact absurd (List.cons.inj heq).1 hc
  · rfl

/-- Within a line nothing is redacted. -/
lemma redactFrom_inside {l : List Char} (h : '\n' ∉ l) (n : ℕ) :
    redactFrom (l.length + 1 + n) false (l ++ '\n' :: cs) = l ++ '\n' :: redactFrom n true cs := by
  induction l with
  | nil => rw [List.length_nil, Nat.zero_add, Nat.add_comm]; rfl
  | cons c l ih =>
    obtain ⟨hc, hl⟩ := not_or.mp (List.mem_cons.not.mp h)
    have hlength : (c :: l).length + 1 + n = (l.length + 1 + n) + 1 := by
      rw [List.length_cons]
      omega
    rw [hlength, List.cons_append, redactFrom, if_neg Bool.false_ne_true, decide_eq_false (Ne.symm hc),
      ih hl]
    rfl

lemma JournalLine.notMem_chars (line : JournalLine) : '\n' ∉ line.chars := by
  have htimestamp : '\n' ∉ line.timestamp.toList := fun h =>
    absurd (line.timestamp_word.2 _ h).1 (by decide)
  have hhost : '\n' ∉ line.host.toList := fun h => absurd (line.host_word.2 _ h).1 (by decide)
  simp [JournalLine.chars, htimestamp, hhost, line.process_line, line.message_line]

lemma redactFrom_line (line : JournalLine) (n : ℕ) :
    redactFrom (line.chars.length + 1 + n) true (line.chars ++ '\n' :: cs) =
      line.chars ++ '\n' :: redactFrom n true cs := by
  have hnone := secretPrefix?_line line ('\n' :: cs)
  have hnotMem := line.notMem_chars
  cases hchars : line.chars with
  | nil =>
    obtain ⟨c, rest, htimestamp, -⟩ := line.timestamp_word.exists_cons
    simp [JournalLine.chars] at hchars
  | cons c l =>
    rw [hchars] at hnone hnotMem
    obtain ⟨hc, hl⟩ := not_or.mp (List.mem_cons.not.mp hnotMem)
    have hlength : (c :: l).length + 1 + n = (l.length + 1 + n) + 1 := by
      rw [List.length_cons]
      omega
    rw [hlength, List.cons_append, redactFrom, if_pos rfl, ← List.cons_append, hnone,
      decide_eq_false (Ne.symm hc)]
    exact congrArg (c :: ·) (redactFrom_inside hl n)

/-- Nothing of what is printed is redacted. -/
lemma redactFrom_printed (lines : List JournalLine) :
    redactFrom (printed lines).length true (printed lines) = printed lines := by
  induction lines with
  | nil => rfl
  | cons line lines ih =>
    have hprinted : printed (line :: lines) = line.chars ++ '\n' :: printed lines := by
      simp [printed]
    have hlength : (printed (line :: lines)).length =
        line.chars.length + 1 + (printed lines).length := by
      rw [hprinted, List.length_append, List.length_cons]
      omega
    rw [hlength, hprinted, redactFrom_line, ih]

lemma redact_printed (lines : List JournalLine) :
    redact (String.ofList (printed lines)) = String.ofList (printed lines) := by
  rw [redact, String.toList_ofList, redactFrom_printed]

end Pattern

/-! ### What is hidden -/

section Hidden

variable {stdout text head front value : List Char} {truncated : Bool}

/-- The mark of redaction has no equals sign, so it does not overlap with what opens a secret. -/
lemma OpensSecret.eq_of_prefix (hhead : OpensSecret head) (hfront : front <+: head)
    (h : head ++ value <+: front ++ redacted) : front = head ∧ value <+: redacted := by
  obtain ⟨before, key, space, hopens, -⟩ := hhead
  obtain ⟨more, rfl⟩ := hfront
  rw [List.append_assoc, List.prefix_append_right_inj] at h
  obtain rfl | ⟨last, hlast⟩ : more = [] ∨ ∃ last, more.getLast? = some last := by
    cases hmore : more.getLast? with
    | none => exact .inl (List.getLast?_eq_none_iff.mp hmore)
    | some last => exact .inr ⟨last, rfl⟩
  · exact ⟨(List.append_nil front).symm, h⟩
  · have hequals : last = '=' := by
      have heq := congrArg List.getLast? hopens
      simpa [List.getLast?_append, hlast] using heq
    have hmem : '=' ∈ redacted :=
      h.subset (List.mem_append_left value (hequals ▸ List.mem_of_getLast? hlast))
    exact absurd hmem (by decide)

/-- A first part of the output hides the secrets in it if it shows nothing but the mark after
them. -/
lemma hides_prefix_iff (hpre : text <+: stdout) (hfull : truncated = false → text = stdout) :
    Hides stdout text truncated ↔ ∀ i line, (textLines text)[i]? = some line →
      ∀ head value, line = head ++ value → OpensSecret head →
        value = redacted ∨
          truncated = true ∧ i + 1 = (textLines text).length ∧ value <+: redacted := by
  constructor
  · intro hhides i shown hshown head value heq hhead
    obtain ⟨line, hline, ⟨more, hmore⟩, -⟩ := line_of_prefix hpre hshown
    have hvalue : line = head ++ (value ++ more) := by
      rw [← hmore, heq, List.append_assoc]
    obtain ⟨front, hfront, hfull | ⟨htruncated, hlast, hpart⟩⟩ :=
      hhides i line shown hline hshown head _ hvalue hhead
    · have hshows : head ++ value = front ++ redacted := heq.symm.trans hfull
      obtain ⟨rfl, -⟩ := hhead.eq_of_prefix hfront (by rw [hshows])
      exact .inl (List.append_cancel_left hshows)
    · obtain ⟨-, hpart⟩ := hhead.eq_of_prefix hfront (heq ▸ hpart)
      exact .inr ⟨htruncated, hlast, hpart⟩
  · intro hmarked i line shown hline hshown head value heq hhead
    obtain ⟨found, hfound, hshownLine, hlast⟩ := line_of_prefix hpre hshown
    obtain rfl : found = line := Option.some.inj (hfound.symm.trans hline)
    by_cases hreaches : head <+: shown
    · obtain ⟨more, rfl⟩ := hreaches
      obtain rfl | ⟨htruncated, hend, hpart⟩ := hmarked i _ hshown head more rfl hhead
      · exact ⟨head, List.prefix_rfl, .inl rfl⟩
      · exact ⟨head, List.prefix_rfl, .inr ⟨htruncated, hend,
          (List.prefix_append_right_inj head).mpr hpart⟩⟩
    · -- the line is cut before the equals sign
      have hpart : shown <+: head :=
        (List.prefix_or_prefix_of_prefix (heq ▸ List.prefix_append head value)
          hshownLine).resolve_left hreaches
      have hne : shown ≠ found := fun h => hreaches (h ▸ heq ▸ List.prefix_append head value)
      have htruncated : truncated = true := by
        rw [← Bool.not_eq_false]
        intro hwhole
        obtain rfl := hfull hwhole
        exact hne (Option.some.inj (hshown.symm.trans hfound))
      exact ⟨head, List.prefix_rfl, .inr ⟨htruncated, hlast.resolve_right hne,
        hpart.trans (List.prefix_append head redacted)⟩⟩

end Hidden

/-- What the executor returns of the log, if the command succeeds. -/
lemma data_of_logsRecent {self : HostExecutor} {request : HelperRequest} {host : Host}
    {response : HelperResponse} {stdout : String}
    (hstdout : ∀ unit n result, host.command
      ["journalctl", "-u", unit, "-n", n, "--no-pager", "-o", "short-iso"] = .ok result →
        result.stdout = stdout)
    (hrun : ((self.logsRecent request).run host).1 = .ok response) (hok : response.ok = true) :
    response.data = [("text", .str (truncateUtf8 (redact stdout)).1),
      ("truncated", .bool (truncateUtf8 (redact stdout)).2)] := by
  have hfailed : ∀ error, (.ok (HostExecutor.failure request error) : Except PyError _) ≠
      .ok response := by
    rintro error ⟨⟩
    cases hok
  unfold HostExecutor.logsRecent at hrun
  cases hentry : HostExecutor.allowedEntry
      (self.allowLists.logs ++ self.allowLists.diagnosticLogs) logTargets request.target with
  | none =>
    simp only [hentry] at hrun
    exact absurd hrun (hfailed _)
  | some entry =>
    obtain ⟨source, unit⟩ := entry
    cases hlines : HostExecutor.logLines? request.params with
    | none =>
      simp only [hentry, hlines] at hrun
      exact absurd hrun (hfailed _)
    | some n =>
      simp only [hentry, hlines] at hrun
      split_ifs at hrun with hsource
      · exact absurd hrun (hfailed _)
      · rw [HostExecutor.run_command] at hrun
        cases houtcome : host.command
            ["journalctl", "-u", unit, "-n", toString n, "--no-pager", "-o", "short-iso"] with
        | error e =>
          rw [houtcome] at hrun
          cases e <;> exact absurd hrun (hfailed _)
        | ok result =>
          obtain rfl := hstdout unit _ result houtcome
          by_cases hcode : result.returncode = 0
          · rw [houtcome, HostExecutor.stdoutOf, if_pos hcode] at hrun
            cases hrun
            rfl
          · rw [houtcome, HostExecutor.stdoutOf, if_neg hcode] at hrun
            exact absurd hrun (hfailed _)

/-- The text of the response hides the secrets that the journal prints only where nothing else
follows them. -/
theorem hidesSecrets_iff (self : HostExecutor) (request : HelperRequest) (host : Host)
    (lines : List JournalLine) (response : HelperResponse)
    (hstdout : ∀ unit n result, host.command
      ["journalctl", "-u", unit, "-n", n, "--no-pager", "-o", "short-iso"] = .ok result →
        result.stdout = String.ofList (printed lines))
    (hrun : ((self.logsRecent request).run host).1 = .ok response) (hok : response.ok = true) :
    HidesSecrets (printed lines) response ↔ Marked (printed lines) := by
  have hdata := data_of_logsRecent hstdout hrun hok
  rw [redact_printed] at hdata
  obtain ⟨hpre, hfull⟩ := prefix_truncateUtf8 (String.ofList (printed lines)) maxResponseBytes
  rw [String.toList_ofList] at hpre
  have hiff := hides_prefix_iff hpre fun h => by rw [hfull h, String.toList_ofList]
  rw [HidesSecrets, Marked]
  constructor
  · rintro ⟨text, truncated, hshown, hhides⟩
    obtain ⟨rfl, rfl⟩ : (truncateUtf8 (String.ofList (printed lines))).1 = text ∧
        (truncateUtf8 (String.ofList (printed lines))).2 = truncated := by
      simpa using hdata.symm.trans hshown
    exact hiff.mp hhides
  · intro hmarked
    exact ⟨_, _, hdata, hiff.mpr hmarked⟩

/-! ### A secret in the journal -/

/-- A message that assigns a secret. -/
def secretLine : JournalLine where
  timestamp := "2026-01-01T00:00:00+0000"
  host := "vps"
  process := "app[1]"
  message := "password=hunter2"
  timestamp_word := ⟨by decide, by decide⟩
  host_word := ⟨by decide, by decide⟩
  process_line := by decide
  message_line := by decide

/-- A host whose commands all print the line. -/
def secretHost : Host where
  command _ := .ok ⟨0, String.ofList (printed [secretLine]), ""⟩
  readiness := .connectError
  timestamp := "2026-01-01T00:00:00+00:00"

def secretExecutor : HostExecutor where
  allowLists :=
    { services := [], containers := [], logs := ["dripvid"], diagnosticServices := [],
      diagnosticLogs := [] }
  python := { maxDepth := 1000, float := fun text => (0, text) }

def secretRequest : HelperRequest := ⟨.logsRecent, some "dripvid", []⟩

def secretResponse : HelperResponse :=
  ⟨true, .logsRecent, some "dripvid",
    [("text", .str (String.ofList (printed [secretLine]))), ("truncated", .bool false)], none⟩

lemma truncateUtf8_secret : truncateUtf8 (String.ofList (printed [secretLine])) =
    (String.ofList (printed [secretLine]), false) := by
  decide

lemma run_secret :
    ((secretExecutor.logsRecent secretRequest).run secretHost).1 = .ok secretResponse := by
  have hrun : ((secretExecutor.logsRecent secretRequest).run secretHost).1 =
      .ok ⟨true, .logsRecent, some "dripvid",
        [("text", .str (truncateUtf8 (redact (String.ofList (printed [secretLine])))).1),
          ("truncated", .bool (truncateUtf8 (redact (String.ofList (printed [secretLine])))).2)],
        none⟩ := rfl
  rw [hrun, redact_printed, truncateUtf8_secret, secretResponse]

/-- Everything of the line up to the secret. -/
def secretHead : List Char := "2026-01-01T00:00:00+0000 vps app[1]: password=".toList

lemma opensSecret_secretHead : OpensSecret secretHead := by
  refine ⟨"2026-01-01T00:00:00+0000 vps app[1]: ".toList, "password".toList, [], by decide,
    by decide, ?_, by simp⟩
  have hkey : "password".toList.all (fun c => isSpace c = false ∧ c ≠ '=') = true := by
    decide
  exact fun c hc => of_decide_eq_true (List.all_eq_true.mp hkey c hc)

lemma textLines_secret : (textLines (printed [secretLine]))[0]? =
    some (secretHead ++ "hunter2".toList) := by
  decide

lemma not_marked_secret : ¬Marked (printed [secretLine]) := by
  rw [Marked, truncateUtf8_secret]
  intro h
  simp only [String.toList_ofList] at h
  obtain hvalue | ⟨htruncated, -⟩ :=
    h 0 _ textLines_secret secretHead _ rfl opensSecret_secretHead
  · exact absurd hvalue (by decide)
  · cases htruncated

theorem hidesSecrets_secretLine_iff :
    HidesSecrets (printed [secretLine]) secretResponse ↔ Marked (printed [secretLine]) :=
  hidesSecrets_iff secretExecutor secretRequest secretHost [secretLine] secretResponse
    (fun unit n result h => by cases h; rfl) run_secret rfl

/-- The secret of the line is returned as it was printed. -/
theorem not_hidesSecrets_secretLine :
    ((secretExecutor.logsRecent secretRequest).run secretHost).1 = .ok secretResponse ∧
      ¬HidesSecrets (printed [secretLine]) secretResponse := by
  refine ⟨run_secret, ?_⟩
  rintro ⟨text, truncated, hdata, hhides⟩
  obtain ⟨rfl, rfl⟩ : String.ofList (printed [secretLine]) = text ∧ false = truncated := by
    simpa [secretResponse] using hdata
  rw [String.toList_ofList] at hhides
  obtain ⟨front, hfront, hshown | ⟨htruncated, -⟩⟩ :=
    hhides 0 _ _ textLines_secret textLines_secret secretHead _ rfl opensSecret_secretHead
  · obtain ⟨-, hvalue⟩ := opensSecret_secretHead.eq_of_prefix hfront (by rw [hshown])
    exact absurd hvalue (by decide)
  · cases htruncated

end Redaction
end AiHq
