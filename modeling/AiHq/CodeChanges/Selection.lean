import AiHq.CodeChanges.ContextConfinement
import AiHq.Library.Greedy

/-!
# The selection of the context

Which of the files that fit an instruction are shown: a greedy selection in the order of their
scores.
-/

namespace AiHq

open Relational FileSystem

namespace RepositoryContextProvider

variable {self : RepositoryContextProvider} {cases : CaseMapping} {t : FileTree ByteArray}
  {words : List String} {cs : List Candidate} {files : List ContextFile}

/-! ### The candidates -/

/-- What is shown of a candidate. -/
def Candidate.shown (c : Candidate) : ContextFile := ⟨c.relative, c.content, true⟩

/-- The number of characters of a candidate. -/
def Candidate.chars (c : Candidate) : ℤ := c.content.length

/-- The candidates are the eligible files below the source that have a text that may be shown and
that fits the words. -/
lemma mem_ranked_iff {c : Candidate} : c ∈ self.ranked cases t words ↔
    ∃ r, r ≠ [] ∧ t.node? (r ++ self.sourcePath) ≠ none ∧ self.eligible cases t r = true ∧
      self.shownText cases t r = some c.content ∧ c.relative = asPosix r ∧
      c.score = score cases c.relative c.content words ∧ 0 < c.score := by
  simp only [mem_ranked, mem_listing, candidate_eq_some]
  constructor
  · rintro ⟨r, ⟨hr, hnode⟩, heligible, text, htext, hscore, rfl⟩
    exact ⟨r, hr, hnode, heligible, htext, rfl, rfl, Nat.pos_of_ne_zero hscore⟩
  · rintro ⟨r, hr, hnode, heligible, htext, hrelative, hscore, hpos⟩
    obtain ⟨s, relative, content⟩ := c
    dsimp only at htext hrelative hscore hpos
    subst hscore hrelative
    exact ⟨r, ⟨hr, hnode⟩, heligible, content, htext, hpos.ne', rfl⟩

/-- No two candidates have the same path. -/
lemma nodup_ranked : ((self.ranked cases t words).map Candidate.relative).Nodup := by
  have hperm := (perm_orderBy
    (fun c : Candidate => toLex (-(c.score : ℤ), toLex (c.relative, c.content)))
    ((self.listing t).filterMap (self.candidate cases t words))).map Candidate.relative
  rw [ranked, hperm.nodup_iff, List.Nodup, List.pairwise_map, List.pairwise_filterMap]
  have hlisting : (self.listing t).Pairwise (· ≠ ·) := by
    rw [listing, List.pairwise_filterMap]
    refine (List.pairwise_map.mp t.nodes.nodup).imp fun {n n'} hne r hr r' hr' hrr => hne ?_
    have hpath := relative_eq_some.mp (Option.filter_eq_some_iff.mp hr).1
    have hpath' := relative_eq_some.mp (Option.filter_eq_some_iff.mp hr').1
    show n.path = n'.path
    rw [hpath, hpath', hrr]
  refine hlisting.imp_of_mem fun {r r'} hr hr' hne c hc c' hc' hrelative => hne ?_
  obtain ⟨-, text, -, -, rfl⟩ := candidate_eq_some.mp hc
  obtain ⟨-, text', -, -, rfl⟩ := candidate_eq_some.mp hc'
  obtain ⟨hr, hnode⟩ := mem_listing.mp hr
  obtain ⟨hr', hnode'⟩ := mem_listing.mp hr'
  obtain ⟨e, he⟩ := Option.ne_none_iff_exists'.mp hnode
  obtain ⟨e', he'⟩ := Option.ne_none_iff_exists'.mp hnode'
  exact asPosix_inj (plain_of_node? he) (plain_of_node? he') hr hr' hrelative

/-- Candidates come in the order of falling scores, and with the same score in that of paths. -/
lemma pairwise_ranked : (self.ranked cases t words).Pairwise fun c d =>
    d.score < c.score ∨ c.score = d.score ∧ c.relative < d.relative := by
  have hle := pairwise_orderBy
    (fun c : Candidate => toLex (-(c.score : ℤ), toLex (c.relative, c.content)))
    ((self.listing t).filterMap (self.candidate cases t words))
  have hnodup : ((self.ranked cases t words).map Candidate.relative).Nodup := nodup_ranked
  have hne := List.pairwise_map.mp hnodup
  refine (hle.and hne).imp fun {c d} ⟨h, hcd⟩ => ?_
  rw [Prod.Lex.toLex_le_toLex] at h
  obtain h | ⟨h, hrelative⟩ := h
  · exact .inl (by simpa using h)
  · refine .inr ⟨by simpa using h, ?_⟩
    rw [Prod.Lex.toLex_le_toLex] at hrelative
    exact hrelative.resolve_right fun h => hcd h.1

/-! ### The loop -/

/-- The loop over the candidates is a greedy selection. -/
lemma choose_selects (total : ℤ) (files : List ContextFile) (cs : List Candidate) :
    ∃ chosen, self.choose total files cs = files ++ chosen.map Candidate.shown ∧
      Greedy.Selects Candidate.chars (fun c => c.chars ≤ self.maxCharsPerFile)
        (self.maxTotalChars - total) cs chosen ∧
      (files.length + chosen.length : ℤ) ≤ max self.maxFiles files.length := by
  induction cs generalizing total files with
  | nil => exact ⟨[], by simp [choose], .stop _ _, by simp⟩
  | cons c cs ih =>
    rw [choose]
    split_ifs with hfull hlong
    · exact ⟨[], by simp, .stop _ _, by simp⟩
    · obtain ⟨chosen, hchoose, hselects, hlength⟩ := ih total files
      refine ⟨chosen, hchoose, .skip (hlong.imp_left fun h => ?_) hselects, hlength⟩
      exact not_le.mpr h
    · obtain ⟨chosen, hchoose, hselects, hlength⟩ :=
        ih (total + c.content.length) (files ++ [⟨c.relative, c.content, true⟩])
      obtain ⟨hfiles, -⟩ := not_or.mp hfull
      obtain ⟨hallowed, hfits⟩ := not_or.mp hlong
      refine ⟨c :: chosen, ?_, .take (not_lt.mp hallowed) (not_lt.mp hfits) ?_, ?_⟩
      · rw [hchoose, List.append_assoc]
        rfl
      · rwa [sub_sub]
      · rw [List.length_append, List.length_singleton] at hlength
        rw [List.length_cons]
        push_cast at hlength ⊢
        omega

/-- How the files of a context are selected from the candidates. -/
structure Selection (self : RepositoryContextProvider) (candidates : List Candidate)
    (files : List ContextFile) : Prop where
  /-- the files are those of the candidates that are included, in their order -/
  subsequence : files =
    (candidates.filter fun c => c.relative ∈ files.map ContextFile.path).map Candidate.shown
  maxFiles : (files.length : ℤ) ≤ max self.maxFiles 0
  maxCharsPerFile : ∀ file ∈ files, (file.content.length : ℤ) ≤ self.maxCharsPerFile
  maxTotalChars : (files.map fun file => (file.content.length : ℤ)).sum ≤ max self.maxTotalChars 0
  /-- a candidate that is left out before an included one is too long, for one file or for the
  budget that the included ones before it leave -/
  left_out : ∀ before c after, candidates = before ++ c :: after →
    c.relative ∉ files.map ContextFile.path →
    (∃ d ∈ after, d.relative ∈ files.map ContextFile.path) →
      self.maxCharsPerFile < c.chars ∨
        self.maxTotalChars -
          ((before.filter fun b => b.relative ∈ files.map ContextFile.path).map
            Candidate.chars).sum < c.chars

lemma selection_choose (hkeys : (cs.map Candidate.relative).Nodup) :
    self.Selection cs (self.choose 0 [] cs) := by
  obtain ⟨chosen, hchoose, hselects, hlength⟩ := @choose_selects self 0 [] cs
  rw [List.nil_append] at hchoose
  rw [sub_zero] at hselects
  have hpaths : (self.choose 0 [] cs).map ContextFile.path = chosen.map Candidate.relative := by
    rw [hchoose, List.map_map]
    rfl
  constructor
  · rw [hpaths, Greedy.filter_of_sublist hselects.sublist hkeys, hchoose]
  · rw [hchoose, List.length_map]
    simpa using hlength
  · rw [hchoose, List.forall_mem_map]
    exact hselects.forall_allowed
  · rw [hchoose, List.map_map]
    exact hselects.sum_le
  · rintro before c after rfl hc hlater
    rw [hpaths] at hc hlater ⊢
    exact (hselects.left_out hkeys hc hlater).imp_left not_le.mp

/-- The context that is built for an instruction. -/
theorem build_selects {instruction : String} {context : RepositoryContext}
    (hbuild : self.build cases t instruction = .ok context) :
    ∃ candidates : List Candidate,
      (∀ c, c ∈ candidates ↔ ∃ r, r ≠ [] ∧ t.node? (r ++ self.sourcePath) ≠ none ∧
        self.eligible cases t r = true ∧ self.shownText cases t r = some c.content ∧
        c.relative = asPosix r ∧
        c.score = score cases c.relative c.content (tokens cases (strip instruction)) ∧
        0 < c.score) ∧
      candidates.Pairwise (fun c d =>
        d.score < c.score ∨ c.score = d.score ∧ c.relative < d.relative) ∧
      self.Selection candidates context.files := by
  obtain ⟨-, rfl⟩ := build_eq_ok.mp hbuild
  exact ⟨_, fun c => mem_ranked_iff, pairwise_ranked, selection_choose nodup_ranked⟩

/-- A source `/app` with two files of notes. -/
def twoNotes : FileTree ByteArray :=
  ((FileTree.empty.put ["app"] .dir).put ["notes.md", "app"] (.file "notes of today\n".toUTF8)).put
    ["old-notes.md", "app"] (.file "old\n".toUTF8)

/-- The notes that fit best are too long for the limits and are left out. -/
theorem build_selects_shorter : ∃ context,
    build ⟨"ai-hq", ["app"], 2, 8, 20⟩ asciiCases twoNotes "Summarise the notes" = .ok context ∧
      context.files = [⟨"old-notes.md", "old\n", true⟩] ∧
      ∃ candidates, Selection ⟨"ai-hq", ["app"], 2, 8, 20⟩ candidates context.files := by
  have hbuild : build ⟨"ai-hq", ["app"], 2, 8, 20⟩ asciiCases twoNotes "Summarise the notes" =
      .ok _ := build_eq_ok.mpr ⟨by decide +kernel, rfl⟩
  obtain ⟨candidates, -, -, hselection⟩ := build_selects hbuild
  exact ⟨_, hbuild, by decide +kernel, candidates, hselection⟩

end RepositoryContextProvider

end AiHq
