import AiHq.CodeChanges.CandidateStore
import AiHq.Delivery.CandidateVerifier
import AiHq.Python.Escapes

/-!
# The identity of a candidate

The verifier and the candidate store each compute the digest of the same fields, with JSON that
one of them writes with `ensure_ascii=False` and the other without it.
-/

namespace AiHq

open Json

/-- What the digest of a candidate is of. -/
structure CandidateIdentity where
  missionId : String
  repository : String
  baseRef : String
  baseCommit : String
  workspaceId : String
  changedFiles : List String
  diffDigest : String
  contentDigest : String
  deriving DecidableEq

namespace CandidateIdentity

def fields (self : CandidateIdentity) : Dict :=
  [("mission_id", .str self.missionId), ("repository", .str self.repository),
    ("base_ref", .str self.baseRef), ("base_commit", .str self.baseCommit),
    ("workspace_id", .str self.workspaceId),
    ("changed_files", .list (self.changedFiles.map .str)),
    ("diff_digest", .str self.diffDigest), ("content_digest", .str self.contentDigest)]

def payload (self : CandidateIdentity) : Json := .obj self.fields

/-- The identity of a snapshot that was taken for a mission. -/
def ofSnapshot (missionId : String) (snapshot : CandidateSnapshot) : CandidateIdentity where
  missionId := missionId
  repository := snapshot.repository
  baseRef := snapshot.baseRef
  baseCommit := snapshot.baseCommit.1
  workspaceId := snapshot.workspaceId
  changedFiles := snapshot.changedFiles.map Subtype.val
  diffDigest := snapshot.diffDigest.1
  contentDigest := snapshot.contentDigest.1

/-- The digest that the verifier computes. -/
def verifierRef (sha256 : Sha256) (self : CandidateIdentity) : String :=
  CandidateVerifier.changeRefOf sha256 self.payload

/-- The digest that the candidate store computes. -/
def storeRef (sha256 : Sha256) (self : CandidateIdentity) : String := digestOf sha256 self.payload

lemma canon_str_list (texts : List String) :
    canon (.list (texts.map .str)) = .list (texts.map .str) := by
  rw [canon, canonList_eq, List.map_map]
  rfl

lemma nodup_fields (I : CandidateIdentity) : (I.fields.map Prod.fst).Nodup := by
  simp [fields]

lemma floatless (I : CandidateIdentity) : Floatless I.payload := by
  refine .obj I.nodup_fields fun field hfield => ?_
  simp only [fields, List.mem_cons, List.not_mem_nil, or_false] at hfield
  rcases hfield with rfl | rfl | rfl | rfl | rfl | rfl | rfl | rfl
  case inr.inr.inr.inr.inr.inl =>
    refine .list fun x hx => ?_
    obtain ⟨path, -, rfl⟩ := List.mem_map.mp hx
    exact .str path
  all_goals exact .str _

lemma payload_inj {I I' : CandidateIdentity} (h : canon I.payload = canon I'.payload) :
    I = I' := by
  have hget := canon_get I.nodup_fields I'.nodup_fields h
  have hstr {a b : String} (h : (some (Json.str a)).map canon = (some (.str b)).map canon) :
      a = b := Json.str.inj (Option.some.inj h)
  have hmission := hstr (hget "mission_id")
  have hrepository := hstr (hget "repository")
  have href := hstr (hget "base_ref")
  have hcommit := hstr (hget "base_commit")
  have hworkspace := hstr (hget "workspace_id")
  have hdiff := hstr (hget "diff_digest")
  have hcontent := hstr (hget "content_digest")
  have hlist : canon (.list (I.changedFiles.map .str)) = canon (.list (I'.changedFiles.map .str)) :=
    Option.some.inj (hget "changed_files")
  rw [canon_str_list, canon_str_list] at hlist
  have hfiles := List.map_injective_iff.mpr (fun _ _ h => Json.str.inj h) (Json.list.inj hlist)
  cases I
  cases I'
  simp_all

/-- The texts in an identity are ASCII if the mission and the paths are. -/
lemma ascii_texts_iff {I : CandidateIdentity} (hrepository : IsAscii I.repository)
    (href : IsAscii I.baseRef) (hcommit : IsAscii I.baseCommit) (hworkspace : IsAscii I.workspaceId)
    (hdiff : IsAscii I.diffDigest) (hcontent : IsAscii I.contentDigest) :
    (∀ s ∈ texts I.payload, IsAscii s) ↔
      IsAscii I.missionId ∧ ∀ path ∈ I.changedFiles, IsAscii path := by
  have hlist (paths : List String) : textsList (paths.map .str) = paths := by
    induction paths with
    | nil => rfl
    | cons path paths ih => rw [List.map_cons, textsList, ih, texts, List.singleton_append]
  have htexts : texts I.payload = ["mission_id", I.missionId, "repository", I.repository,
      "base_ref", I.baseRef, "base_commit", I.baseCommit, "workspace_id", I.workspaceId,
      "changed_files"] ++ I.changedFiles ++ ["diff_digest", I.diffDigest, "content_digest",
        I.contentDigest] := by
    simp [payload, fields, texts, textsFields, hlist]
  rw [htexts]
  constructor
  · intro h
    refine ⟨h _ ?_, fun path hpath => h _ ?_⟩ <;> simp [*]
  · rintro ⟨hmission, hfiles⟩ text htext
    simp only [List.mem_append, List.mem_cons, List.not_mem_nil, or_false] at htext
    rcases htext with (htext | htext) | htext
    · rcases htext with rfl | rfl | rfl | rfl | rfl | rfl | rfl | rfl | rfl | rfl | rfl
      any_goals assumption
      all_goals decide
    · exact hfiles text htext
    · rcases htext with rfl | rfl | rfl | rfl
      any_goals assumption
      all_goals decide

/-- No two different texts have the same digest. -/
def NoCollision (sha256 : Sha256) (text text' : String) : Prop :=
  textDigest sha256 text = textDigest sha256 text' → text = text'

/-- What the two encodings of two identities have in common, they have because the identities are
the same. -/
lemma eq_of_verifierRef_eq {sha256 : Sha256} {I I' : CandidateIdentity}
    (hcollision : NoCollision sha256 (String.ofList (I.payload.dumpsAs escapeUnicode))
      (canonicalText I'.payload))
    (h : I.verifierRef sha256 = I'.storeRef sha256) :
    I = I' ∧ I.payload.dumpsAs escapeUnicode = I.payload.dumps := by
  have htext := String.ofList_inj.mp (hcollision h)
  have hvalid (I : CandidateIdentity) : Valid (fun _ => 0) I.payload := I.floatless.valid
  have hcanon : canon I.payload = canon I'.payload := by
    rw [← dumpsAs_escapeChar] at htext
    exact dumpsAs_inj escaped_escapeUnicode escaped_escapeChar (hvalid I) (hvalid I') htext
  obtain rfl := payload_inj hcanon
  exact ⟨rfl, htext⟩

end CandidateIdentity

end AiHq
