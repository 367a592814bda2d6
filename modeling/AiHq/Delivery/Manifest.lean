import AiHq.Library.FileSystem
import AiHq.Python.Serialization
import AiHq.Delivery.RepositoryWorkspace

/-!
# Manifests and canonical digests

The sandbox and the candidate store compute the same two things, each with code of its own: the
manifest of a workspace, which says for every path what is there, and the digest of a value as
canonical JSON.
-/

namespace AiHq

open Relational FileSystem

/-- `hashlib.sha256(content).hexdigest()` -/
structure Sha256 where
  hexdigest : ByteArray → String
  isLowerHex_hexdigest : ∀ content, isLowerHex 64 (hexdigest content).toList = true

variable (sha256 : Sha256)

/-- `as_posix()` of a relative path. -/
def asPosix (r : Path) : String := slashed r.reverse

/-- What a manifest says of the entry `e` at the path `r` below `root`. `os.walk` passes over
directories named `.git`, and a link to a directory counts as one. -/
def describe (t : FileTree ByteArray) (root r : Path) (e : Entry ByteArray) : Option String :=
  if r = [] ∨ ".git" ∈ r.tail then none
  else match e with
    | .link target =>
      if r.head? = some ".git" ∧ t.isDir (r ++ root) = true then none
      else some ("symlink:" ++ target)
    | .file content => some ("sha256:" ++ sha256.hexdigest content)
    | .dir | .special => none

/-- What there is at each path below `root`. -/
def manifestOf (t : FileTree ByteArray) (root : Path) : List (String × String) :=
  t.nodes.rows.filterMap fun n =>
    (relative root n.path).bind fun r =>
      (describe sha256 t root r n.entry).map fun text => (asPosix r, text)

def manifestJson (manifest : List (String × String)) : Json :=
  .obj (manifest.map fun field => (field.1, .str field.2))

/-- `json.dumps(value, sort_keys=True, separators=(",", ":"))` -/
def canonicalText (value : Json) : String := String.ofList value.dumps

/-- `"sha256:"` and the hexdigest of a text. -/
def textDigest (text : String) : String := "sha256:" ++ sha256.hexdigest text.toUTF8

def digestOf (value : Json) : String := textDigest sha256 (canonicalText value)

variable {sha256} {t : FileTree ByteArray} {root r : Path} {k v : String}

/-- The names of a path at which something is are proper. -/
lemma proper_of_node? {e : Entry ByteArray} (h : t.node? (r ++ root) = some e) :
    ∀ c ∈ r, Proper c := by
  induction r generalizing e with
  | nil =>
    intro c hc
    cases hc
  | cons c r ih =>
    obtain ⟨hc, hparent⟩ := FileTree.closed_of_node? h
    intro d hd
    rcases List.mem_cons.mp hd with rfl | hd
    · exact hc
    · exact ih hparent d hd

lemma asPosix_inj {r r' : Path} (hr : ∀ c ∈ r, Plain c) (hr' : ∀ c ∈ r', Plain c) (hne : r ≠ [])
    (hne' : r' ≠ []) (h : asPosix r = asPosix r') : r = r' := by
  have hcomponents := congrArg components h
  rw [asPosix, asPosix, components_slashed (by simpa using hne)
      (fun c hc => (hr c (List.mem_reverse.mp hc)).2),
    components_slashed (by simpa using hne')
      (fun c hc => (hr' c (List.mem_reverse.mp hc)).2)] at hcomponents
  exact List.reverse_injective hcomponents

lemma plain_of_node? {e : Entry ByteArray} (h : t.node? (r ++ root) = some e) :
    ∀ c ∈ r, Plain c := fun c hc => (proper_of_node? h c hc).1

/-- Nothing is stripped from a digest. -/
lemma strip_textDigest (sha256 : Sha256) (text : String) :
    strip (textDigest sha256 text) = textDigest sha256 text := by
  have hpre : ("sha256:".toList.all fun c => !isSpace c) = true := by decide
  refine strip_eq_self fun c hc => ?_
  rw [textDigest, String.toList_append] at hc
  rcases List.mem_append.mp hc with hc | hc
  · simpa using List.all_eq_true.mp hpre c hc
  · exact isSpace_of_isLowerHex (sha256.isLowerHex_hexdigest _) hc

lemma isSha256Digest_textDigest (sha256 : Sha256) (text : String) :
    isSha256Digest (textDigest sha256 text) = true := by
  have hhex := sha256.isLowerHex_hexdigest text.toUTF8
  obtain ⟨hlength, -⟩ := Bool.and_eq_true_iff.mp hhex
  rw [isSha256Digest, textDigest, String.toList_append]
  exact Bool.and_eq_true_iff.mpr ⟨hlength, isInt16_of_isLowerHex hhex⟩

lemma isRequired_textDigest (sha256 : Sha256) (text : String) :
    IsRequired (textDigest sha256 text) := by
  refine ⟨strip_textDigest sha256 text, fun h => ?_⟩
  have hdigest := isSha256Digest_textDigest sha256 text
  rw [h] at hdigest
  revert hdigest
  decide

/-- A digest as the value that snapshots have. -/
def sha256DigestOf (sha256 : Sha256) (text : String) : Sha256Digest :=
  ⟨⟨textDigest sha256 text, isRequired_textDigest sha256 text⟩, isSha256Digest_textDigest sha256 text⟩

/-- A function that has the given hexdigests of texts, and zeros for all others. -/
def Sha256.ofTable (table : List (String × String)) : Sha256 where
  hexdigest content :=
    match table.find? fun field => field.1.toUTF8 = content && isLowerHex 64 field.2.toList with
    | some field => field.2
    | none => String.ofList (List.replicate 64 '0')
  isLowerHex_hexdigest content := by
    split
    · next field hfield =>
      have hfound := List.find?_some hfield
      exact (Bool.and_eq_true_iff.mp hfound).2
    · rw [String.toList_ofList]
      decide

lemma Sha256.hexdigest_ofTable {table : List (String × String)} {text digest : String}
    (hkeys : (table.map Prod.fst).Nodup) (hmem : (text, digest) ∈ table)
    (hhex : isLowerHex 64 digest.toList = true) :
    (Sha256.ofTable table).hexdigest text.toUTF8 = digest := by
  have hfind : table.find? (fun field => field.1.toUTF8 = text.toUTF8 &&
      isLowerHex 64 field.2.toList) = some (text, digest) := by
    cases hfind : table.find? (fun field => field.1.toUTF8 = text.toUTF8 &&
        isLowerHex 64 field.2.toList) with
    | none =>
      have hno := List.find?_eq_none.mp hfind _ hmem
      simp [hhex] at hno
    | some field =>
      have hfield := List.find?_some hfind
      simp only [Bool.and_eq_true, decide_eq_true_eq] at hfield
      have hsame : field.1 = text := String.toByteArray_inj.mp hfield.1
      exact congrArg some
        (List.inj_on_of_nodup_map hkeys (List.mem_of_find?_eq_some hfind) hmem hsame)
  show (match table.find? _ with | some field => field.2 | none => _) = digest
  rw [hfind]

end AiHq
