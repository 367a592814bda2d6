import AiHq.CodeChanges.Context

/-!
# What the context shows of the file system

A file is judged by the path at which it is listed, and its text is read through links. For a
link these are two files.
-/

namespace AiHq

open Relational FileSystem

namespace RepositoryContextProvider

variable {self : RepositoryContextProvider} {cases : CaseMapping} {t : FileTree ByteArray}
  {root r sourcePath : Path} {repository text : String} {words : List String}

/-- The path `r` below the source leads to a file with the text. The file lies in the source, and
its own path there is one that may be shown. -/
def LeadsInside (cases : CaseMapping) (t : FileTree ByteArray) (root r : Path) (text : String) :
    Prop :=
  ∃ s m content, t.lookup true (r ++ root) = .found (s ++ root) m ∧ allowedPath cases s = true ∧
    t.node? (s ++ root) = some (.file content) ∧ readText content = some text

def Confined (cases : CaseMapping) (t : FileTree ByteArray) (root : Path) (file : ContextFile) :
    Prop :=
  ∃ r, t.node? (r ++ root) ≠ none ∧ file.path = asPosix r ∧
    LeadsInside cases t root r file.content

/-- Every link that is eligible, and whose text may be shown and fits the words, leads to a file of
the source whose own path may be shown. -/
def LinksInside (self : RepositoryContextProvider) (cases : CaseMapping) (t : FileTree ByteArray)
    (words : List String) : Prop :=
  ∀ r target text, t.node? (r ++ self.sourcePath) = some (.link target) →
    self.eligible cases t r = true → self.shownText cases t r = some text →
    score cases (asPosix r) text words ≠ 0 →
    ∃ s m, t.lookup true (r ++ self.sourcePath) = .found (s ++ self.sourcePath) m ∧
      allowedPath cases s = true

/-! ### The loop over the source -/

lemma mem_listing : r ∈ self.listing t ↔ r ≠ [] ∧ t.node? (r ++ self.sourcePath) ≠ none := by
  unfold listing
  rw [List.mem_filterMap]
  constructor
  · rintro ⟨n, hn, h⟩
    obtain ⟨hrel, hne⟩ := Option.filter_eq_some_iff.mp h
    refine ⟨by simpa using hne, ?_⟩
    rw [← relative_eq_some.mp hrel, (FileTree.mem_nodes.mp hn).2]
    exact Option.some_ne_none _
  · rintro ⟨hne, hnode⟩
    obtain ⟨e, he⟩ := Option.ne_none_iff_exists'.mp hnode
    refine ⟨⟨r ++ self.sourcePath, e⟩, FileTree.mem_nodes.mpr ⟨?_, he⟩, ?_⟩
    · exact List.append_ne_nil_of_left_ne_nil hne _
    · rw [relative_eq_some.mpr rfl]
      simp [hne]

lemma candidate_eq_some {c : Candidate} : self.candidate cases t words r = some c ↔
    self.eligible cases t r = true ∧ ∃ text, self.shownText cases t r = some text ∧
      score cases (asPosix r) text words ≠ 0 ∧
      c = ⟨score cases (asPosix r) text words, asPosix r, text⟩ := by
  unfold candidate
  by_cases heligible : self.eligible cases t r = true
  · rw [if_pos heligible, Option.bind_eq_some_iff]
    constructor
    · rintro ⟨text, htext, h⟩
      by_cases hscore : score cases (asPosix r) text words = 0
      · simp [hscore] at h
      · simp only [hscore, if_false] at h
        exact ⟨heligible, text, htext, hscore, (Option.some.inj h).symm⟩
    · rintro ⟨-, text, htext, hscore, rfl⟩
      exact ⟨text, htext, by simp [hscore]⟩
  · simp [heligible]

lemma mem_ranked {c : Candidate} : c ∈ self.ranked cases t words ↔
    ∃ r ∈ self.listing t, self.candidate cases t words r = some c := by
  rw [ranked, mem_orderBy, List.mem_filterMap]

/-! ### The loop over the candidates -/

section Choose

variable {total : ℤ} {files : List ContextFile} {cs : List Candidate} {file : ContextFile}

/-- What is shown of a candidate is its complete text. -/
lemma mem_choose (h : file ∈ self.choose total files cs) :
    file ∈ files ∨ ∃ c ∈ cs, file = ⟨c.relative, c.content, true⟩ := by
  induction cs generalizing total files with
  | nil => exact .inl h
  | cons c cs ih =>
    rw [choose] at h
    split_ifs at h with hfull hlong
    · exact .inl h
    · refine (ih h).imp_right ?_
      rintro ⟨c', hc', rfl⟩
      exact ⟨c', List.mem_cons_of_mem c hc', rfl⟩
    · rcases ih h with h | ⟨c', hc', rfl⟩
      · rcases List.mem_append.mp h with h | h
        · exact .inl h
        · exact .inr ⟨c, List.mem_cons_self, List.mem_singleton.mp h⟩
      · exact .inr ⟨c', List.mem_cons_of_mem c hc', rfl⟩

/-- The number of characters in the texts. -/
def charsOf (cs : List Candidate) : ℕ := (cs.map fun c => c.content.length).sum

lemma files_subset_choose (h : file ∈ files) : file ∈ self.choose total files cs := by
  induction cs generalizing total files with
  | nil => exact h
  | cons c cs ih =>
    rw [choose]
    split_ifs
    · exact h
    · exact ih h
    · exact ih (List.mem_append_left _ h)

/-- Within ample limits all candidates are shown. -/
lemma choose_of_ample (hfiles : (files.length + cs.length : ℕ) ≤ self.maxFiles)
    (hchars : (charsOf cs : ℤ) ≤ self.maxCharsPerFile)
    (htotal : total + charsOf cs < self.maxTotalChars) {c : Candidate} (hc : c ∈ cs) :
    ⟨c.relative, c.content, true⟩ ∈ self.choose total files cs := by
  induction cs generalizing total files with
  | nil => cases hc
  | cons d cs ih =>
    have hsum : charsOf (d :: cs) = d.content.length + charsOf cs := by simp [charsOf]
    rw [hsum] at hchars htotal
    rw [List.length_cons] at hfiles
    push_cast at hfiles hchars htotal
    rw [choose, if_neg (by omega), if_neg (by omega)]
    rcases List.mem_cons.mp hc with rfl | hc
    · exact files_subset_choose (List.mem_append_right _ (List.mem_singleton_self _))
    · refine ih ?_ (by omega) (by omega) hc
      rw [List.length_append, List.length_singleton]
      push_cast
      omega

end Choose

/-! ### What is read at a path -/

lemma read_eq_ok {p : Path} {content : ByteArray} (h : t.read p = .ok content) :
    ∃ q m, t.lookup true p = .found q m ∧ t.node? q = some (.file content) := by
  unfold FileTree.read FileTree.stat at h
  cases hlookup : t.lookup true p with
  | missing q =>
    rw [hlookup] at h
    cases h
  | failed error =>
    rw [hlookup] at h
    cases h
  | found q m =>
    rw [hlookup] at h
    cases hnode : t.node? q with
    | none =>
      simp only [hnode] at h
      cases h
    | some e =>
      simp only [hnode] at h
      cases e with
      | file content' =>
        obtain rfl := Except.ok.inj h
        exact ⟨q, m, rfl, hnode⟩
      | dir | link | special => cases h

lemma shownText_eq_some (h : self.shownText cases t r = some text) :
    ∃ q m content, t.lookup true (r ++ self.sourcePath) = .found q m ∧
      t.node? q = some (.file content) ∧ readText content = some text := by
  obtain ⟨hread, -⟩ := Option.filter_eq_some_iff.mp h
  obtain ⟨content, hcontent, htext⟩ := Option.bind_eq_some_iff.mp hread
  cases hok : t.read (r ++ self.sourcePath) with
  | error error =>
    rw [hok] at hcontent
    cases hcontent
  | ok content' =>
    rw [hok] at hcontent
    obtain rfl := Option.some.inj hcontent
    obtain ⟨q, m, hlookup, hnode⟩ := read_eq_ok hok
    exact ⟨q, m, content', hlookup, hnode, htext⟩

/-- What is listed and is no link is judged by the path that it is read from. -/
lemma leadsInside_of_candidate (hlinks : self.LinksInside cases t words)
    (hr : r ∈ self.listing t) (heligible : self.eligible cases t r = true)
    (htext : self.shownText cases t r = some text)
    (hscore : score cases (asPosix r) text words ≠ 0) :
    LeadsInside cases t self.sourcePath r text := by
  obtain ⟨q, m, content, hlookup, hnode, hread⟩ := shownText_eq_some htext
  obtain ⟨e, he⟩ := Option.ne_none_iff_exists'.mp (mem_listing.mp hr).2
  by_cases hlink : ∃ target, e = .link target
  · obtain ⟨target, rfl⟩ := hlink
    obtain ⟨s, m', hlookup', hallowed⟩ := hlinks r target text he heligible htext hscore
    obtain ⟨rfl, -⟩ := Lookup.found.inj (hlookup.symm.trans hlookup')
    exact ⟨s, m, content, hlookup, hallowed, hnode, hread⟩
  · have hsolid : t.Solid (r ++ self.sourcePath) :=
      ⟨e, he, fun target h => hlink ⟨target, h⟩⟩
    obtain ⟨rfl, -⟩ := Lookup.found.inj (hlookup.symm.trans (FileTree.lookup_of_solid hsolid))
    have hallowed : allowedPath cases r = true := by
      unfold eligible at heligible
      simp only [Bool.and_eq_true] at heligible
      exact heligible.1.2
    exact ⟨r, m, content, hlookup, hallowed, hnode, hread⟩

/-! ### Providers -/

lemma init_eq_ok {maxFiles maxCharsPerFile maxTotalChars : ℤ}
    {provider : RepositoryContextProvider} :
    init t repository sourcePath maxFiles maxCharsPerFile maxTotalChars = .ok provider ↔
      repository ∈ trustedRepositoryKeys ∧ ∃ source, resolvePath t sourcePath = .ok source ∧
        t.isDir source = true ∧
        provider = ⟨repository, source, maxFiles, maxCharsPerFile, maxTotalChars⟩ := by
  simp only [init, bind_eq_ok, raiseIf_eq_ok, not_not, exists_const, Bool.not_eq_false]
  constructor
  · rintro ⟨hrepository, source, hsource, hdir, h⟩
    exact ⟨hrepository, source, hsource, hdir, (Except.ok.inj h).symm⟩
  · rintro ⟨hrepository, source, hsource, hdir, rfl⟩
    exact ⟨hrepository, source, hsource, hdir, rfl⟩

/-- The source of a provider is a directory. -/
lemma isDir_of_init {maxFiles maxCharsPerFile maxTotalChars : ℤ}
    {provider : RepositoryContextProvider}
    (h : init t repository sourcePath maxFiles maxCharsPerFile maxTotalChars = .ok provider) :
    t.node? provider.sourcePath = some .dir := by
  obtain ⟨-, source, hsource, hdir, rfl⟩ := init_eq_ok.mp h
  unfold resolvePath at hsource
  cases hreal : t.realpath sourcePath with
  | ok q =>
    rw [hreal] at hsource
    obtain rfl := Except.ok.inj hsource
    exact FileTree.dir_of_realpath hreal hdir
  | error error =>
    rw [hreal] at hsource
    cases error <;> cases hsource

lemma build_eq_ok {instruction : String} {context : RepositoryContext} :
    self.build cases t instruction = .ok context ↔ strip instruction ≠ "" ∧
      context = ⟨self.repository, strip instruction,
        self.choose 0 [] (self.ranked cases t (tokens cases (strip instruction)))⟩ := by
  simp only [build, bind_eq_ok, raiseIf_eq_ok, exists_const]
  constructor
  · rintro ⟨hne, h⟩
    exact ⟨hne, (Except.ok.inj h).symm⟩
  · rintro ⟨hne, rfl⟩
    exact ⟨hne, rfl⟩

/-- The path in the context is that of one file only. -/
lemma leadsInside_of_confined (hroot : t.node? root = some .dir) (hr : r ≠ [])
    (hnode : t.node? (r ++ root) ≠ none) {complete : Bool}
    (h : Confined cases t root ⟨asPosix r, text, complete⟩) : LeadsInside cases t root r text := by
  obtain ⟨r', hnode', hpath, hleads⟩ := h
  have hr' : r' ≠ [] := by
    rintro rfl
    obtain ⟨s, m, content, hlookup, -, hfile, -⟩ := hleads
    rw [List.nil_append, FileTree.lookup_of_dir hroot] at hlookup
    rw [← (Lookup.found.inj hlookup).1, hroot] at hfile
    cases hfile
  obtain ⟨e, he⟩ := Option.ne_none_iff_exists'.mp hnode
  obtain ⟨e', he'⟩ := Option.ne_none_iff_exists'.mp hnode'
  obtain rfl := asPosix_inj (plain_of_node? he) (plain_of_node? he') hr hr' hpath
  exact hleads

/-- Whatever the limits of a provider, the files that it shows for an instruction lie in the source
and have names there that may be shown, if and only if the links that it would read lead to such
files. -/
theorem confined_iff (cases : CaseMapping) (t : FileTree ByteArray) (repository : String)
    (sourcePath : Path) (instruction : String) :
    (∀ maxFiles maxCharsPerFile maxTotalChars provider context,
      init t repository sourcePath maxFiles maxCharsPerFile maxTotalChars = .ok provider →
      provider.build cases t instruction = .ok context →
      ∀ file ∈ context.files, Confined cases t provider.sourcePath file) ↔
    ∀ provider, init t repository sourcePath = .ok provider → strip instruction ≠ "" →
      provider.LinksInside cases t (tokens cases (strip instruction)) := by
  constructor
  · intro hconfined provider hinit hinstruction r target text hlink heligible htext hscore
    obtain ⟨hrepository, source, hsource, hdir, rfl⟩ := init_eq_ok.mp hinit
    have hroot := isDir_of_init hinit
    set words := tokens cases (strip instruction)
    set provider : RepositoryContextProvider := ⟨repository, source, 12, 12000, 48000⟩
    have hnode : t.node? (r ++ source) ≠ none := by
      rw [hlink]
      exact Option.some_ne_none _
    have hr : r ≠ [] := by
      rintro rfl
      rw [List.nil_append, hroot] at hlink
      cases hlink
    -- limits under which everything that fits the words is shown
    set ranked := provider.ranked cases t words with hranked
    set ample : RepositoryContextProvider :=
      ⟨repository, source, ranked.length, charsOf ranked, charsOf ranked + 1⟩
    have hmem : (⟨score cases (asPosix r) text words, asPosix r, text⟩ : Candidate) ∈ ranked :=
      mem_ranked.mpr ⟨r, mem_listing.mpr ⟨hr, hnode⟩,
        candidate_eq_some.mpr ⟨heligible, text, htext, hscore, rfl⟩⟩
    have hshown : ⟨asPosix r, text, true⟩ ∈ ample.choose 0 [] (ample.ranked cases t words) :=
      choose_of_ample (by simp [ample, hranked]) le_rfl (by simp [ample]) hmem
    obtain ⟨s, m, content, hlookup, hallowed, -⟩ := leadsInside_of_confined hroot hr hnode
      (hconfined _ _ _ ample _ (init_eq_ok.mpr ⟨hrepository, source, hsource, hdir, rfl⟩)
        (build_eq_ok.mpr ⟨hinstruction, rfl⟩) _ hshown)
    exact ⟨s, m, hlookup, hallowed⟩
  · intro hlinks maxFiles maxCharsPerFile maxTotalChars provider context hinit hbuild file hfile
    obtain ⟨hrepository, source, hsource, hdir, rfl⟩ := init_eq_ok.mp hinit
    obtain ⟨hinstruction, rfl⟩ := build_eq_ok.mp hbuild
    have hlinks := hlinks ⟨repository, source, 12, 12000, 48000⟩
      (init_eq_ok.mpr ⟨hrepository, source, hsource, hdir, rfl⟩) hinstruction
    obtain ⟨c, hc, rfl⟩ := (mem_choose hfile).resolve_left List.not_mem_nil
    obtain ⟨r, hr, hcandidate⟩ := mem_ranked.mp hc
    obtain ⟨heligible, text, htext, hscore, rfl⟩ := candidate_eq_some.mp hcandidate
    exact ⟨r, (mem_listing.mp hr).2, rfl, leadsInside_of_candidate hlinks hr heligible htext hscore⟩

/-! ### A link that leads out of the source -/

/-- The case mappings of ASCII letters. -/
def asciiCases : CaseMapping where
  casefold s := String.ofList (s.toList.map Char.toLower)
  upper s := String.ofList (s.toList.map Char.toUpper)
  casefold_ascii _ _ := rfl
  upper_ascii _ _ := rfl

def hostsText : String := "127.0.0.1 localhost\n"

/-- A source `/app` in which `notes.md` is a link to a file elsewhere. -/
def linkedNotes : FileTree ByteArray :=
  ((((FileTree.empty.put ["app"] .dir).put ["etc"] .dir).put ["hosts", "etc"]
    (.file hostsText.toUTF8)).put ["notes.md", "app"] (.link "/etc/hosts"))

/-- The text of the file elsewhere is shown as that of the notes. -/
theorem not_confined_linkedNotes :
    ¬∀ provider context, init linkedNotes "ai-hq" ["app"] = .ok provider →
      provider.build asciiCases linkedNotes "Summarise the notes" = .ok context →
      ∀ file ∈ context.files, Confined asciiCases linkedNotes provider.sourcePath file := by
  intro h
  have hroot : linkedNotes.node? ["app"] = some .dir := by decide +kernel
  have hinit : init linkedNotes "ai-hq" ["app"] = .ok ⟨"ai-hq", ["app"], 12, 12000, 48000⟩ := by
    refine init_eq_ok.mpr ⟨by decide, ["app"], ?_, FileTree.isDir_of_dir hroot, rfl⟩
    rw [resolvePath, FileTree.realpath_of_dir hroot]
  have hfiles : (choose ⟨"ai-hq", ["app"], 12, 12000, 48000⟩ 0 []
      (ranked ⟨"ai-hq", ["app"], 12, 12000, 48000⟩ asciiCases linkedNotes
        (tokens asciiCases (strip "Summarise the notes")))) =
      [⟨"notes.md", hostsText, true⟩] := by decide +kernel
  have hconfined := h _ _ hinit (build_eq_ok.mpr ⟨by decide, rfl⟩)
    ⟨"notes.md", hostsText, true⟩ (hfiles ▸ List.mem_singleton_self _)
  have hlookup : linkedNotes.lookup true (["notes.md"] ++ ["app"]) = .found ["hosts", "etc"] 39 :=
    rfl
  obtain ⟨s, m, content, hfound, -⟩ := leadsInside_of_confined (r := ["notes.md"]) hroot
    (List.cons_ne_nil _ _) (by decide) hconfined
  have happ := (Lookup.found.inj (hlookup.symm.trans hfound)).1
  have hlast := congrArg List.getLast? happ
  simp at hlast

end RepositoryContextProvider

end AiHq
