import AiHq.Library.Table

/-!
# File systems

A tree of directories, files and symbolic links, the walk along names and links by which a path
is looked up, and the calls that read and change the tree.
-/

namespace FileSystem

open Relational

universe u

/-- An absolute path: its names from the innermost to the outermost. -/
abbrev Path := List String

/-- The names in a path text. -/
def components (s : String) : List String := (s.toList.splitOn '/').map String.ofList

/-- The path text with the given names. -/
def slashed (names : List String) : String :=
  String.ofList (['/'].intercalate (names.map String.toList))

lemma components_slashed {names : List String} (hne : names ≠ [])
    (hnames : ∀ c ∈ names, '/' ∉ c.toList) : components (slashed names) = names := by
  have hsplit : (['/'].intercalate (names.map String.toList)).splitOn '/' =
      names.map String.toList := by
    refine List.splitOn_intercalate '/' ?_ (by simpa using hne)
    intro l hl
    obtain ⟨c, hc, rfl⟩ := List.mem_map.mp hl
    exact hnames c hc
  rw [components, slashed, String.toList_ofList, hsplit, List.map_map]
  simp [Function.comp_def]

lemma components_ne_nil (s : String) : components s ≠ [] := by
  simp [components, List.splitOn_ne_nil]

lemma not_mem_of_mem_splitOn {cs l : List Char} (hl : l ∈ cs.splitOn '/') : '/' ∉ l := by
  induction cs generalizing l with
  | nil =>
    obtain rfl : l = [] := by simpa using hl
    exact List.not_mem_nil
  | cons c cs ih =>
    rw [List.splitOn_cons_eq_if_modifyHead] at hl
    split_ifs at hl with hc
    · rcases List.mem_cons.mp hl with rfl | hl
      · exact List.not_mem_nil
      · exact ih hl
    · cases hs : cs.splitOn '/' with
      | nil => exact absurd hs (List.splitOn_ne_nil _ _)
      | cons first rest =>
        rw [hs, List.modifyHead_cons] at hl
        rcases List.mem_cons.mp hl with rfl | hl
        · intro hmem
          rcases List.mem_cons.mp hmem with rfl | hmem
          · exact hc (by simp)
          · exact ih (hs ▸ List.mem_cons_self) hmem
        · exact ih (hs ▸ List.mem_cons_of_mem first hl)

lemma not_mem_of_mem_components {s c : String} (hc : c ∈ components s) : '/' ∉ c.toList := by
  obtain ⟨l, hl, rfl⟩ := List.mem_map.mp hc
  rw [String.toList_ofList]
  exact not_mem_of_mem_splitOn hl

/-- A single step downwards. -/
def Plain (c : String) : Prop := c ∉ ["", ".", ".."] ∧ '/' ∉ c.toList

/-- The names that a directory can have in it. -/
def Proper (c : String) : Prop := Plain c ∧ '\x00' ∉ c.toList

instance : DecidablePred Plain := fun c => by
  unfold Plain
  infer_instance

instance : DecidablePred Proper := fun c => by
  unfold Proper
  infer_instance

/-- The names that lead from `root` to `p`. -/
def relative (root p : Path) : Option Path :=
  if root <:+ p then some (p.take (p.length - root.length)) else none

lemma relative_eq_some {root p r : Path} : relative root p = some r ↔ p = r ++ root := by
  unfold relative
  constructor
  · intro h
    split_ifs at h with hp
    obtain ⟨r', rfl⟩ := hp
    simpa using h
  · rintro rfl
    simp

/-- What stands at a path: `special` is a device, a pipe or a socket. -/
inductive Entry (β : Type u) where
  | dir
  | file (content : β)
  | link (target : String)
  | special
  deriving DecidableEq

def Entry.isSpecial {β : Type u} : Entry β → Bool
  | .special => true
  | _ => false

instance {β : Type u} (e : Option (Entry β)) : Decidable (e = some .dir) :=
  match e with
  | some .dir => isTrue rfl
  | none | some (.file _) | some (.link _) | some .special => isFalse fun h => by cases h

structure Node (β : Type u) where
  path : Path
  entry : Entry β
  deriving DecidableEq

instance {β : Type u} : Keyed (Node β) Path := ⟨Node.path⟩

/-- A tree below the root directory: every node stands in a directory. -/
structure FileTree (β : Type u) where
  nodes : Table (Node β)
  closed : ∀ n ∈ nodes.rows, ∃ c p, n.path = c :: p ∧ Proper c ∧
    (p = [] ∨ nodes.get? p = some ⟨p, .dir⟩)

namespace FileTree

variable {β : Type u} {t : FileTree β} {p q : Path} {c : String} {e e' : Entry β}

def empty : FileTree β where
  nodes := .empty
  closed := by
    intro n hn
    cases hn

def node? (t : FileTree β) (p : Path) : Option (Entry β) :=
  if p = [] then some .dir else (t.nodes.get? p).map Node.entry

@[simp] lemma node?_nil : t.node? [] = some .dir := rfl

lemma node?_cons : t.node? (c :: p) = (t.nodes.get? (c :: p)).map Node.entry := rfl

lemma get?_eq_some : t.nodes.get? p = some ⟨p, e⟩ ↔ p ≠ [] ∧ t.node? p = some e := by
  cases p with
  | nil =>
    constructor
    · intro h
      obtain ⟨c, p, hp, -⟩ := t.closed _ (Table.mem_of_get? h)
      cases hp
    · exact fun h => absurd rfl h.1
  | cons c p =>
    rw [node?_cons, Option.map_eq_some_iff]
    constructor
    · exact fun h => ⟨List.cons_ne_nil c p, _, h, rfl⟩
    · rintro ⟨-, ⟨q, e'⟩, hq, rfl⟩
      obtain rfl : q = c :: p := Table.key_of_get? hq
      exact hq

lemma mem_nodes {n : Node β} : n ∈ t.nodes.rows ↔ n.path ≠ [] ∧ t.node? n.path = some n.entry := by
  rw [← get?_eq_some]
  constructor
  · exact fun h => Table.get?_of_mem h
  · exact fun h => Table.mem_of_get? h

/-- What is in a directory has a proper name. -/
lemma closed_of_node? (h : t.node? (c :: p) = some e) : Proper c ∧ t.node? p = some .dir := by
  obtain ⟨c', p', hcp, hc, hp⟩ := t.closed ⟨c :: p, e⟩ (mem_nodes.mpr ⟨List.cons_ne_nil c p, h⟩)
  obtain ⟨rfl, rfl⟩ := List.cons.inj hcp
  refine ⟨hc, ?_⟩
  rcases hp with rfl | hp
  · rfl
  · exact (get?_eq_some.mp hp).2

lemma isDir_of_suffix (h : t.node? p = some .dir) (hq : q <:+ p) : t.node? q = some .dir := by
  induction p with
  | nil =>
    obtain rfl := List.suffix_nil.mp hq
    exact h
  | cons c p ih =>
    rcases List.suffix_cons_iff.mp hq with rfl | hq
    · exact h
    · exact ih (closed_of_node? h).2 hq

/-- Below what is no directory there is nothing. -/
lemma node?_eq_none_of_suffix (h : t.node? p ≠ some .dir) (hq : p <:+ q) (hne : q ≠ p) :
    t.node? q = none := by
  cases hqe : t.node? q with
  | none => rfl
  | some e =>
    cases q with
    | nil => exact absurd (List.suffix_nil.mp hq).symm hne
    | cons c q =>
      rcases List.suffix_cons_iff.mp hq with rfl | hq
      · exact absurd rfl hne
      · exact absurd (isDir_of_suffix (closed_of_node? hqe).2 hq) h

/-! ### Changes -/

/-- The tree with `e` at the path, in place of what was there; a directory is not replaced, and
nothing is put where there is no directory for it. -/
def put (t : FileTree β) : Path → Entry β → FileTree β
  | [], _ => t
  | c :: p, e =>
    if h : Proper c ∧ t.node? p = some .dir ∧ t.node? (c :: p) ≠ some .dir then {
      nodes := t.nodes.put ⟨c :: p, e⟩
      closed := by
        have hkeep : ∀ q, q = [] ∨ t.nodes.get? q = some ⟨q, .dir⟩ →
            q = [] ∨ (t.nodes.put ⟨c :: p, e⟩).get? q = some ⟨q, .dir⟩ := by
          rintro q (rfl | hq)
          · exact .inl rfl
          · refine .inr ?_
            rw [Table.get?_put, if_neg, hq]
            rintro rfl
            exact h.2.2 (get?_eq_some.mp hq).2
        intro n hn
        rcases Table.mem_put.mp hn with ⟨hn, -⟩ | rfl
        · obtain ⟨c', p', hpath, hc', hp'⟩ := t.closed n hn
          exact ⟨c', p', hpath, hc', hkeep p' hp'⟩
        · refine ⟨c, p, rfl, h.1, hkeep p ?_⟩
          by_cases hp : p = []
          · exact .inl hp
          · exact .inr (get?_eq_some.mpr ⟨hp, h.2.1⟩) }
    else t

lemma get?_put {t' : Table (Node β)} (ht' : t' = t.nodes.put ⟨p, e⟩) :
    (t'.get? q).map Node.entry = if q = p then some e else (t.nodes.get? q).map Node.entry := by
  rw [ht', Table.get?_put]
  show Option.map Node.entry (if q = p then some ⟨p, e⟩ else t.nodes.get? q) = _
  split_ifs with hq
  · rfl
  · rfl

lemma node?_put (hc : Proper c) (hp : t.node? p = some .dir)
    (hnot : t.node? (c :: p) ≠ some .dir) :
    (t.put (c :: p) e).node? q = if q = c :: p then some e else t.node? q := by
  rw [put, dif_pos ⟨hc, hp, hnot⟩]
  cases q with
  | nil => rw [if_neg (List.cons_ne_nil c p).symm, node?_nil, node?_nil]
  | cons d q =>
    exact get?_put rfl

lemma node?_put_self : (t.put p e).node? p = t.node? p ∨ (t.put p e).node? p = some e := by
  cases p with
  | nil => exact .inl rfl
  | cons c p =>
    by_cases hput : Proper c ∧ t.node? p = some .dir ∧ t.node? (c :: p) ≠ some .dir
    · rw [node?_put hput.1 hput.2.1 hput.2.2, if_pos rfl]
      exact .inr rfl
    · rw [put, dif_neg hput]
      exact .inl rfl

lemma node?_put_of_ne (h : q ≠ p) : (t.put p e).node? q = t.node? q := by
  cases p with
  | nil => rfl
  | cons c p =>
    by_cases hput : Proper c ∧ t.node? p = some .dir ∧ t.node? (c :: p) ≠ some .dir
    · rw [node?_put hput.1 hput.2.1 hput.2.2, if_neg h]
    · rw [put, dif_neg hput]

/-- The tree without what is at the path; a directory is not removed. -/
def remove (t : FileTree β) (p : Path) : FileTree β :=
  if h : t.node? p = some .dir then t else {
    nodes := t.nodes.erase p
    closed := by
      intro n hn
      obtain ⟨c', p', hpath, hc', hp'⟩ := t.closed n (Table.mem_erase.mp hn).1
      refine ⟨c', p', hpath, hc', hp'.imp_right fun hp' => ?_⟩
      rw [Table.get?_erase, if_neg, hp']
      rintro rfl
      exact h (get?_eq_some.mp hp').2 }

lemma node?_remove (hnot : t.node? p ≠ some .dir) :
    (t.remove p).node? q = if q = p then none else t.node? q := by
  rw [remove, dif_neg hnot]
  cases q with
  | nil =>
    rw [if_neg, node?_nil, node?_nil]
    rintro rfl
    exact hnot rfl
  | cons d q =>
    show ((t.nodes.erase p).get? (d :: q)).map Node.entry = _
    rw [Table.get?_erase]
    split_ifs with hq
    · rfl
    · rfl

lemma node?_remove_of_ne (h : q ≠ p) : (t.remove p).node? q = t.node? q := by
  by_cases hdir : t.node? p = some .dir
  · rw [remove, dif_pos hdir]
  · rw [node?_remove hdir, if_neg h]

/-! ### Looking up paths -/

end FileTree

inductive Errno where
  | noEntry
  | notDirectory
  | alreadyExists
  | isDirectory
  | loop
  | invalid
  | unsupported
  deriving DecidableEq

/-- Where a walk that follows no link stops. -/
inductive Stop where
  | found (p : Path)
  | missing (p : Path)
  | link (p : Path) (target : String) (rest : List String)
  | failed (error : Errno)

/-- Where a lookup ends: at an entry, with `budget` links that may still be followed, or at a
name that its directory does not have. -/
inductive Lookup where
  | found (p : Path) (budget : ℕ)
  | missing (p : Path)
  | failed (error : Errno)

/-- Where the target of the link at `p` starts from. -/
def linkBase (p : Path) (target : String) : Path :=
  if target.toList.head? = some '/' then [] else p.tail

/-- The number of links that one lookup follows. -/
def maxLinks : ℕ := 40

namespace FileTree

variable {β : Type u} {t : FileTree β} {p q : Path} {c : String} {e : Entry β}

/-- Walk along names up to the first link. -/
def scan (t : FileTree β) : Path → List String → Stop
  | p, [] => .found p
  | p, c :: cs =>
    if t.node? p = some .dir then
      if c = "" ∨ c = "." then scan t p cs
      else if c = ".." then scan t p.tail cs
      else match t.node? (c :: p) with
        | none =>
          if Proper c then if cs = [] then .missing (c :: p) else .failed .noEntry
          else .failed .invalid
        | some (.link target) => .link (c :: p) target cs
        | some _ => scan t (c :: p) cs
    else .failed .notDirectory

/-- Walk along names and links; a link at the last name is followed if `follow`. -/
def walk (t : FileTree β) (follow : Bool) (n : ℕ) (p : Path) (cs : List String) : Lookup :=
  match t.scan p cs with
  | .found q => .found q n
  | .missing q => .missing q
  | .failed error => .failed error
  | .link q target rest =>
    if rest = [] ∧ follow = false then .found q n
    else match n with
      | 0 => .failed .loop
      | n + 1 => walk t follow n (linkBase q target) (components target ++ rest)

/-- No system call takes a path with a null byte in it. -/
def Clean (p : Path) : Prop := ∀ c ∈ p, '\x00' ∉ c.toList

instance : DecidablePred Clean := fun p => by
  unfold Clean
  infer_instance

def lookup (t : FileTree β) (follow : Bool) (p : Path) : Lookup :=
  if Clean p then t.walk follow maxLinks [] p.reverse else .failed .invalid

lemma scan_append {cs ds : List String} (hds : ds ≠ []) : t.scan p (cs ++ ds) =
    match t.scan p cs with
    | .found q => t.scan q ds
    | .missing _ => .failed .noEntry
    | .link q target rest => .link q target (rest ++ ds)
    | .failed error => .failed error := by
  induction cs generalizing p with
  | nil => rfl
  | cons c cs ih =>
    have hne : cs ++ ds ≠ [] := List.append_ne_nil_of_right_ne_nil cs hds
    rw [List.cons_append, scan, scan]
    by_cases hp : t.node? p = some .dir
    · rw [if_pos hp, if_pos hp]
      by_cases hdot : c = "" ∨ c = "."
      · rw [if_pos hdot, if_pos hdot]
        exact ih
      · rw [if_neg hdot, if_neg hdot]
        by_cases hup : c = ".."
        · rw [if_pos hup, if_pos hup]
          exact ih
        · rw [if_neg hup, if_neg hup]
          cases t.node? (c :: p) with
          | none =>
            by_cases hc : Proper c
            · simp only [hc, hne, if_true, if_false]
              split_ifs <;> rfl
            · simp only [hc, if_false]
          | some e =>
            cases e with
            | link target => rfl
            | dir | file | special => exact ih
    · rw [if_neg hp, if_neg hp]

/-- A walk goes on from where its first part comes to. -/
lemma walk_append {follow : Bool} {n : ℕ} {cs ds : List String} (hds : ds ≠ []) :
    t.walk follow n p (cs ++ ds) = match t.walk true n p cs with
      | .found q m => t.walk follow m q ds
      | .missing _ => .failed .noEntry
      | .failed error => .failed error := by
  induction n generalizing p cs with
  | zero =>
    rw [walk, walk, scan_append hds]
    cases t.scan p cs with
    | found q =>
      show _ = t.walk follow 0 q ds
      rw [walk]
    | missing q => rfl
    | failed error => rfl
    | link q target rest => simp [hds]
  | succ n ih =>
    rw [walk, walk, scan_append hds]
    cases t.scan p cs with
    | found q =>
      show _ = t.walk follow (n + 1) q ds
      rw [walk]
    | missing q => rfl
    | failed error => rfl
    | link q target rest =>
      have hne : rest ++ ds ≠ [] := List.append_ne_nil_of_right_ne_nil rest hds
      simp only [hne, false_and, if_false, Bool.true_eq_false, and_false]
      rw [← List.append_assoc]
      exact ih

/-- Something stands at the path, and it is no link. -/
def Solid (t : FileTree β) (p : Path) : Prop :=
  ∃ e, t.node? p = some e ∧ ∀ target, e ≠ .link target

/-- A directory has room for the last name of the path. -/
def Vacant (t : FileTree β) (q : Path) : Prop :=
  ∃ c p, q = c :: p ∧ Proper c ∧ t.node? p = some .dir ∧ t.node? q = none

/-- Where there is room, what is put stands. -/
lemma node?_put_of_vacant (h : t.Vacant q) (e : Entry β) : (t.put q e).node? q = some e := by
  obtain ⟨c, p, rfl, hc, hp, hnone⟩ := h
  rw [node?_put hc hp (by rw [hnone]; exact fun h => by cases h), if_pos rfl]

lemma solid_of_dir (h : t.node? p = some .dir) : t.Solid p := ⟨_, h, fun _ => nofun⟩

lemma isDir_tail (h : t.node? p = some .dir) : t.node? p.tail = some .dir :=
  isDir_of_suffix h (List.tail_suffix p)

lemma scan_spec (cs : List String) (hp : t.Solid p) : match t.scan p cs with
    | .found q => t.Solid q
    | .missing q => t.Vacant q
    | .link q target _ => t.node? q = some (.link target)
    | .failed _ => True := by
  induction cs generalizing p with
  | nil => exact hp
  | cons c cs ih =>
    rw [scan]
    by_cases hdir : t.node? p = some .dir
    · rw [if_pos hdir]
      by_cases hdot : c = "" ∨ c = "."
      · rw [if_pos hdot]
        exact ih hp
      · rw [if_neg hdot]
        by_cases hup : c = ".."
        · rw [if_pos hup]
          exact ih (solid_of_dir (isDir_tail hdir))
        · rw [if_neg hup]
          cases he : t.node? (c :: p) with
          | none =>
            by_cases hc : Proper c
            · by_cases hcs : cs = []
              · simp only [hc, hcs, if_true]
                exact ⟨c, p, rfl, hc, hdir, he⟩
              · simp only [hc, hcs, if_true, if_false]
            · simp only [hc, if_false]
          | some e =>
            cases e with
            | link target => exact he
            | dir | file | special => exact ih ⟨_, he, fun _ => nofun⟩
    · rw [if_neg hdir]
      trivial

lemma isDir_linkBase {target : String} (h : t.node? q ≠ none) :
    t.node? (linkBase q target) = some .dir := by
  unfold linkBase
  split_ifs
  · rfl
  · cases q with
    | nil => rfl
    | cons c q =>
      obtain ⟨e, he⟩ := Option.ne_none_iff_exists'.mp h
      exact (closed_of_node? he).2

/-- What a walk comes to. -/
lemma walk_spec (follow : Bool) (n : ℕ) (cs : List String) (hp : t.Solid p) :
    match t.walk follow n p cs with
    | .found q _ => t.Solid q ∨ follow = false ∧ ∃ target, t.node? q = some (.link target)
    | .missing q => t.Vacant q
    | .failed _ => True := by
  induction n generalizing p cs with
  | zero =>
    have hscan := t.scan_spec cs hp
    rw [walk]
    cases hs : t.scan p cs with
    | found q =>
      rw [hs] at hscan
      exact .inl hscan
    | missing q =>
      rw [hs] at hscan
      exact hscan
    | failed error => trivial
    | link q target rest =>
      rw [hs] at hscan
      by_cases hlast : rest = [] ∧ follow = false
      · simp only [hlast, and_self, if_true]
        exact .inr ⟨trivial, target, hscan⟩
      · simp only [hlast, if_false]
  | succ n ih =>
    have hscan := t.scan_spec cs hp
    rw [walk]
    cases hs : t.scan p cs with
    | found q =>
      rw [hs] at hscan
      exact .inl hscan
    | missing q =>
      rw [hs] at hscan
      exact hscan
    | failed error => trivial
    | link q target rest =>
      rw [hs] at hscan
      by_cases hlast : rest = [] ∧ follow = false
      · simp only [hlast, and_self, if_true]
        exact .inr ⟨trivial, target, hscan⟩
      · simp only [hlast, if_false]
        exact ih _ (solid_of_dir (isDir_linkBase (by rw [hscan]; exact Option.some_ne_none _)))

lemma clean_of_node? (h : t.node? p ≠ none) : Clean p := by
  induction p with
  | nil =>
    intro c hc
    cases hc
  | cons c p ih =>
    obtain ⟨e, he⟩ := Option.ne_none_iff_exists'.mp h
    obtain ⟨hc, hp⟩ := closed_of_node? he
    intro d hd
    rcases List.mem_cons.mp hd with rfl | hd
    · exact hc.2
    · exact ih (by rw [hp]; exact Option.some_ne_none _) d hd

/-- A path is looked up from where its directory is. -/
lemma lookup_cons {follow : Bool} (hclean : Clean (c :: p)) :
    t.lookup follow (c :: p) = match t.lookup true p with
      | .found q m => t.walk follow m q [c]
      | .missing _ => .failed .noEntry
      | .failed error => .failed error := by
  have hclean' : Clean p := fun d hd => hclean d (List.mem_cons_of_mem c hd)
  rw [lookup, lookup, if_pos hclean, if_pos hclean', List.reverse_cons,
    walk_append (List.cons_ne_nil c [])]

lemma walk_notDirectory {follow : Bool} {n : ℕ} (hq : t.node? q ≠ some .dir) :
    t.walk follow n q [c] = .failed .notDirectory := by
  rw [walk, scan, if_neg hq]

lemma walk_single {follow : Bool} {n : ℕ} (hc : Proper c) (hq : t.node? q = some .dir) :
    t.walk follow n q [c] = match t.node? (c :: q) with
      | none => .missing (c :: q)
      | some (.link target) =>
        if follow = false then .found (c :: q) n
        else match n with
          | 0 => .failed .loop
          | n + 1 => t.walk follow n (linkBase (c :: q) target) (components target)
      | some _ => .found (c :: q) n := by
  have hdot : ¬(c = "" ∨ c = ".") := by
    rintro (rfl | rfl)
    · exact hc.1.1 (by decide)
    · exact hc.1.1 (by decide)
  have hup : ¬c = ".." := by
    rintro rfl
    exact hc.1.1 (by decide)
  rw [walk, scan, if_pos hq, if_neg hdot, if_neg hup]
  cases t.node? (c :: q) with
  | none => simp only [hc, if_true]
  | some e =>
    cases e with
    | link target =>
      simp only [true_and, List.append_nil]
    | dir | file | special => rfl

lemma clean_cons (hc : Proper c) (hp : t.node? p = some .dir) : Clean (c :: p) := by
  intro d hd
  rcases List.mem_cons.mp hd with rfl | hd
  · exact hc.2
  · exact clean_of_node? (by rw [hp]; exact Option.some_ne_none _) d hd

/-- The path of a directory leads to it. -/
lemma lookup_of_dir {follow : Bool} (h : t.node? p = some .dir) :
    t.lookup follow p = .found p maxLinks := by
  induction p generalizing follow with
  | nil => rfl
  | cons c p ih =>
    obtain ⟨hc, hp⟩ := closed_of_node? h
    rw [lookup_cons (clean_cons hc hp), ih hp]
    show t.walk follow maxLinks p [c] = _
    rw [walk_single hc hp, h]

/-- A name in a directory leads to what stands there or to a link. -/
lemma lookup_of_parent {follow : Bool} (hc : Proper c) (hp : t.node? p = some .dir) :
    t.lookup follow (c :: p) = t.walk follow maxLinks p [c] := by
  rw [lookup_cons (clean_cons hc hp), lookup_of_dir hp]

/-! ### System calls -/

/-- `stat`, or `lstat` where the last link is not followed. -/
def stat (t : FileTree β) (follow : Bool) (p : Path) : Except Errno (Entry β) :=
  match t.lookup follow p with
  | .found q _ => match t.node? q with
    | some e => .ok e
    | none => .error .noEntry
  | .missing _ => .error .noEntry
  | .failed error => .error error

def present (t : FileTree β) (p : Path) : Bool := (t.stat true p).toOption.isSome

def isDir (t : FileTree β) (p : Path) : Bool :=
  match t.stat true p with
  | .ok .dir => true
  | _ => false

def isFile (t : FileTree β) (p : Path) : Bool :=
  match t.stat true p with
  | .ok (.file _) => true
  | _ => false

def isSymlink (t : FileTree β) (p : Path) : Bool :=
  match t.stat false p with
  | .ok (.link _) => true
  | _ => false

def read (t : FileTree β) (p : Path) : Except Errno β :=
  match t.stat true p with
  | .ok (.file content) => .ok content
  | .ok .dir => .error .isDirectory
  | .ok _ => .error .unsupported
  | .error error => .error error

def mkdir (t : FileTree β) (p : Path) : Except Errno (FileTree β) :=
  match t.lookup false p with
  | .found _ _ => .error .alreadyExists
  | .missing q => .ok (t.put q .dir)
  | .failed error => .error error

def symlink (t : FileTree β) (p : Path) (target : String) : Except Errno (FileTree β) :=
  match t.lookup false p with
  | .found _ _ => .error .alreadyExists
  | .missing q => .ok (t.put q (.link target))
  | .failed error => .error error

/-- Open a file for writing, creating it where it is missing, and replace its content. -/
def write (t : FileTree β) (p : Path) (content : β) : Except Errno (FileTree β) :=
  match t.lookup true p with
  | .found q _ => match t.node? q with
    | some (.file _) => .ok (t.put q (.file content))
    | some .dir => .error .isDirectory
    | _ => .error .unsupported
  | .missing q => .ok (t.put q (.file content))
  | .failed error => .error error

def unlink (t : FileTree β) (p : Path) : Except Errno (FileTree β) :=
  match t.lookup false p with
  | .found q _ => if t.node? q = some .dir then .error .isDirectory else .ok (t.remove q)
  | .missing _ => .error .noEntry
  | .failed error => .error error

/-- `mkdir -p`: a directory that is there already is no error. -/
def makeDirs (t : FileTree β) : Path → Except Errno Unit × FileTree β
  | [] => (.ok (), t)
  | c :: p => match t.mkdir (c :: p) with
    | .ok t' => (.ok (), t')
    | .error .noEntry => match t.makeDirs p with
      | (.error error, t') => (.error error, t')
      | (.ok (), t') => match t'.mkdir (c :: p) with
        | .ok t'' => (.ok (), t'')
        | .error .noEntry => (.error .noEntry, t')
        | .error error => (if t'.isDir (c :: p) then .ok () else .error error, t')
    | .error error => (if t.isDir (c :: p) then .ok () else .error error, t)

/-- Go along names lexically, and by `descend` where there is a link. -/
def trace (t : FileTree β) (descend : Path → List String → Option Path) :
    Path → List String → Option Path
  | p, [] => some p
  | p, c :: cs =>
    if c = "" ∨ c = "." then trace t descend p cs
    else if c = ".." then trace t descend p.tail cs
    else match t.node? (c :: p) with
      | some (.link target) => (descend (linkBase (c :: p) target) (components target)).bind
          fun q => trace t descend q cs
      | _ => trace t descend (c :: p) cs

/-- The path without links, through links nested to a depth of less than `n`. -/
def traceLinks (t : FileTree β) : ℕ → Path → List String → Option Path
  | 0 => fun _ _ => none
  | n + 1 => t.trace (t.traceLinks n)

/-- The path without links; below what is missing it goes on lexically. Links that are nested
deeper than there are links lead in a circle. -/
def realpath (t : FileTree β) (p : Path) : Except Errno Path :=
  if Clean p then
    match t.traceLinks (t.nodes.rows.length + 1) [] p.reverse with
    | some q => .ok q
    | none => .error .loop
  else .error .invalid

/-! ### Paths below a directory -/

section Below

variable {root : Path}

lemma lookup_of_solid {follow : Bool} (hp : t.Solid p) :
    t.lookup follow p = .found p maxLinks := by
  obtain ⟨e, he, hlink⟩ := hp
  cases p with
  | nil => rfl
  | cons c p =>
    obtain ⟨hc, hdir⟩ := closed_of_node? he
    rw [lookup_of_parent hc hdir, walk_single hc hdir, he]
    cases e with
    | link target => exact absurd rfl (hlink target)
    | dir | file | special => rfl

lemma stat_of_solid {follow : Bool} (hp : t.Solid p) (h : t.node? p = some e) :
    t.stat follow p = .ok e := by
  simp only [stat, lookup_of_solid hp, h]

lemma isDir_iff_of_solid (hp : t.Solid p) : t.isDir p = true ↔ t.node? p = some .dir := by
  obtain ⟨e, he, hlink⟩ := hp
  rw [isDir, stat_of_solid ⟨e, he, hlink⟩ he, he]
  cases e <;> simp

lemma isDir_of_dir (h : t.node? p = some .dir) : t.isDir p = true :=
  (isDir_iff_of_solid (solid_of_dir h)).mpr h

lemma present_of_isDir (h : t.isDir p = true) : t.present p = true := by
  unfold isDir at h
  split at h
  · next hs =>
    rw [present, hs]
    rfl
  · cases h

/-- What is looked up successfully is in a directory. -/
lemma isDir_parent {follow : Bool} (h : t.stat follow (c :: p) = .ok e) :
    Clean (c :: p) ∧ t.isDir p = true := by
  by_cases hclean : Clean (c :: p)
  · refine ⟨hclean, ?_⟩
    rw [stat, lookup_cons hclean] at h
    rw [isDir, stat]
    cases hl : t.lookup true p with
    | missing q =>
      rw [hl] at h
      cases h
    | failed error =>
      rw [hl] at h
      cases h
    | found q m =>
      rw [hl] at h
      by_cases hq : t.node? q = some .dir
      · simp [hq]
      · simp only [walk_notDirectory hq] at h
        cases h
  · rw [stat, lookup, if_neg hclean] at h
    cases h

lemma present_iff : t.present p = true ↔ ∃ e, t.stat true p = .ok e := by
  rw [present]
  cases t.stat true p with
  | ok e => simp [Except.toOption]
  | error error => simp [Except.toOption]

lemma isSymlink_of_link {target : String} (h : t.node? p = some (.link target)) :
    t.isSymlink p = true := by
  cases p with
  | nil => cases h
  | cons c p =>
    obtain ⟨hc, hp⟩ := closed_of_node? h
    rw [isSymlink, stat, lookup_of_parent hc hp, walk_single hc hp, h]
    simp [h]

/-- A lookup that follows all links ends at an entry that is no link, or where one could be. -/
lemma lookup_spec : match t.lookup true p with
    | .found q _ => t.Solid q
    | .missing q => t.Vacant q
    | .failed _ => True := by
  rw [lookup]
  split_ifs with hclean
  · have hwalk := t.walk_spec true maxLinks p.reverse (solid_of_dir t.node?_nil)
    cases hw : t.walk true maxLinks [] p.reverse with
    | found q m =>
      rw [hw] at hwalk
      exact hwalk.resolve_right fun h => by cases h.1
    | missing q =>
      rw [hw] at hwalk
      exact hwalk
    | failed error => trivial
  · trivial

lemma present_of_found {m : ℕ} (h : t.lookup true p = .found q m) : t.present p = true := by
  have hspec := t.lookup_spec (p := p)
  rw [h] at hspec
  obtain ⟨e, he, -⟩ := hspec
  simp [present, stat, h, he, Except.toOption]

/-- No name of the path below `root` is one of a link that leads anywhere. -/
def Unlinked (t : FileTree β) (root p : Path) : Prop :=
  ∀ q, root <:+ q → q ≠ root → q <:+ p → ¬(t.present q = true ∧ t.isSymlink q = true)

lemma Unlinked.parent (h : t.Unlinked root (c :: p)) : t.Unlinked root p :=
  fun q hroot hne hq => h q hroot hne (hq.trans (List.suffix_cons c p))

lemma proper_of_clean (hplain : ∀ d ∈ c :: p, Plain d) (hclean : Clean (c :: p)) : Proper c :=
  ⟨hplain c List.mem_cons_self, hclean c List.mem_cons_self⟩

/-- What is found below a directory with no link on the way stands there itself. -/
lemma solid_of_present (hroot : t.node? root = some .dir) (hp : root <:+ p)
    (hplain : ∀ c ∈ p, Plain c) (hun : t.Unlinked root p) (h : t.present p = true) :
    t.Solid p := by
  induction p with
  | nil => exact solid_of_dir rfl
  | cons c p ih =>
    rcases List.suffix_cons_iff.mp hp with rfl | hp'
    · exact solid_of_dir hroot
    · obtain ⟨e, he⟩ := present_iff.mp h
      obtain ⟨hclean, hdir⟩ := isDir_parent he
      have hsolid := ih hp' (fun d hd => hplain d (List.mem_cons_of_mem c hd)) hun.parent
        (present_of_isDir hdir)
      have hpdir := (isDir_iff_of_solid hsolid).mp hdir
      have hc := proper_of_clean hplain hclean
      cases hentry : t.node? (c :: p) with
      | none =>
        rw [stat, lookup_of_parent hc hpdir, walk_single hc hpdir, hentry] at he
        cases he
      | some e' =>
        refine ⟨e', hentry, ?_⟩
        rintro target rfl
        have hne : c :: p ≠ root := by
          rintro rfl
          rw [hentry] at hroot
          cases hroot
        exact hun _ hp hne (List.suffix_refl _) ⟨h, isSymlink_of_link hentry⟩

lemma dir_of_isDir (hroot : t.node? root = some .dir) (hp : root <:+ p)
    (hplain : ∀ c ∈ p, Plain c) (hun : t.Unlinked root p) (h : t.isDir p = true) :
    t.node? p = some .dir :=
  (isDir_iff_of_solid (solid_of_present hroot hp hplain hun (present_of_isDir h))).mp h

/-- The trees that differ by directories on the way from `root` to `p`. -/
def Grown (root p : Path) (t t' : FileTree β) : Prop := ∀ q, t'.node? q = t.node? q ∨
  t.node? q = none ∧ t'.node? q = some .dir ∧ root <:+ q ∧ q <:+ p

lemma Grown.refl : Grown root p t t := fun _ => .inl rfl

lemma Grown.trans {t' t'' : FileTree β} (h : Grown root p t t') (h' : Grown root p t' t'') :
    Grown root p t t'' := by
  intro q
  rcases h' q with hq' | ⟨hnone, hdir, hq⟩
  · rw [hq']
    exact h q
  · rcases h q with hq' | ⟨-, hdir', -⟩
    · exact .inr ⟨hq' ▸ hnone, hdir, hq⟩
    · rw [hnone] at hdir'
      cases hdir'

lemma Grown.mono {t' : FileTree β} (h : Grown root p t t') (hq : p <:+ q) : Grown root q t t' :=
  fun r => (h r).imp_right fun ⟨hnone, hdir, hroot, hr⟩ => ⟨hnone, hdir, hroot, hr.trans hq⟩

lemma mkdir_of_vacant (hc : Proper c) (hp : t.node? p = some .dir)
    (hnone : t.node? (c :: p) = none) : t.mkdir (c :: p) = .ok (t.put (c :: p) .dir) := by
  rw [mkdir, lookup_of_parent hc hp, walk_single hc hp, hnone]

lemma grown_put_dir (hc : Proper c) (hp : t.node? p = some .dir)
    (hnone : t.node? (c :: p) = none) (hroot : root <:+ c :: p) :
    Grown root (c :: p) t (t.put (c :: p) .dir) := by
  intro q
  rw [node?_put hc hp (by rw [hnone]; exact nofun)]
  split_ifs with hq
  · subst hq
    exact .inr ⟨hnone, rfl, hroot, List.suffix_refl _⟩
  · exact .inl rfl

lemma makeDirs_of_dir (h : t.node? p = some .dir) : t.makeDirs p = (.ok (), t) := by
  cases p with
  | nil => rfl
  | cons c p =>
    rw [makeDirs, mkdir, lookup_of_dir h]
    simp [isDir_of_dir h]

/-- Below what is no directory nothing is looked up. -/
lemma lookup_of_not_isDir (c : String) (follow : Bool) (h : t.isDir p = false) :
    ∃ error, t.lookup follow (c :: p) = .failed error := by
  by_cases hclean : Clean (c :: p)
  · rw [lookup_cons hclean]
    rw [isDir, stat] at h
    cases hl : t.lookup true p with
    | missing q => exact ⟨_, rfl⟩
    | failed error => exact ⟨_, rfl⟩
    | found q m =>
      rw [hl] at h
      refine ⟨_, walk_notDirectory ?_⟩
      intro hq
      simp [hq] at h
  · exact ⟨_, if_neg hclean⟩

lemma isDir_of_not_isDir (h : t.isDir p = false) : t.isDir (c :: p) = false := by
  obtain ⟨error, herror⟩ := t.lookup_of_not_isDir c true h
  simp [isDir, stat, herror]

/-- Directories are made on the way to the path only, and if all goes well the path is one of
a directory. -/
theorem makeDirs_spec (hroot : t.node? root = some .dir) (hp : root <:+ p)
    (hplain : ∀ c ∈ p, Plain c) (hun : t.Unlinked root p) :
    Grown root p t (t.makeDirs p).2 ∧
      ((t.makeDirs p).1 = .ok () → (t.makeDirs p).2.node? p = some .dir) := by
  induction p with
  | nil => exact ⟨.refl, fun _ => rfl⟩
  | cons c p ih =>
    by_cases hdir : t.node? (c :: p) = some .dir
    · rw [makeDirs_of_dir hdir]
      exact ⟨.refl, fun _ => hdir⟩
    have hp' : root <:+ p := by
      rcases List.suffix_cons_iff.mp hp with rfl | hp'
      · exact absurd hroot hdir
      · exact hp'
    have hnot : t.isDir (c :: p) = false := by
      cases hd : t.isDir (c :: p) with
      | false => rfl
      | true => exact absurd (dir_of_isDir hroot hp hplain hun hd) hdir
    by_cases hpdir : t.node? p = some .dir
    · by_cases hc : Proper c
      · cases hentry : t.node? (c :: p) with
        | none =>
          rw [makeDirs, mkdir_of_vacant hc hpdir hentry]
          refine ⟨grown_put_dir hc hpdir hentry hp, fun _ => ?_⟩
          rw [node?_put hc hpdir hdir, if_pos rfl]
        | some e =>
          have hexists : t.mkdir (c :: p) = .error .alreadyExists := by
            rw [mkdir, lookup_of_parent hc hpdir, walk_single hc hpdir, hentry]
            cases e <;> rfl
          rw [makeDirs, hexists]
          refine ⟨.refl, fun h => ?_⟩
          simp [hnot] at h
      · have hunclean : ¬Clean (c :: p) := fun hclean => hc (proper_of_clean hplain hclean)
        have hinvalid : t.mkdir (c :: p) = .error .invalid := by
          rw [mkdir, lookup, if_neg hunclean]
        rw [makeDirs, hinvalid]
        refine ⟨.refl, fun h => ?_⟩
        simp [hnot] at h
    · have hplain' : ∀ d ∈ p, Plain d := fun d hd => hplain d (List.mem_cons_of_mem c hd)
      have hpnot : t.isDir p = false := by
        cases hd : t.isDir p with
        | false => rfl
        | true => exact absurd (dir_of_isDir hroot hp' hplain' hun.parent hd) hpdir
      obtain ⟨error, herror⟩ := t.lookup_of_not_isDir c false hpnot
      have hmkdir : t.mkdir (c :: p) = .error error := by
        rw [mkdir, herror]
      by_cases hno : error = .noEntry
      · subst hno
        obtain ⟨hgrown, hok⟩ := ih hp' hplain' hun.parent
        rw [makeDirs, hmkdir]
        cases hm : t.makeDirs p with
        | mk r t' =>
          rw [hm] at hgrown hok
          cases r with
          | error error => exact ⟨hgrown.mono (List.suffix_cons c p), nofun⟩
          | ok u =>
            have hpdir' : t'.node? p = some .dir := hok rfl
            have hc : Proper c := by
              refine proper_of_clean hplain ?_
              by_contra hclean
              rw [lookup, if_neg hclean] at herror
              cases herror
            have hnone : t'.node? (c :: p) = none := by
              rcases hgrown (c :: p) with heq | ⟨-, -, -, hsuf⟩
              · rw [heq]
                exact node?_eq_none_of_suffix hpdir (List.suffix_cons c p)
                  (List.cons_ne_self c p)
              · have hlen : p.length + 1 ≤ p.length := hsuf.length_le
                omega
            simp only [mkdir_of_vacant hc hpdir' hnone]
            refine ⟨(hgrown.mono (List.suffix_cons c p)).trans
              (grown_put_dir hc hpdir' hnone hp), fun _ => ?_⟩
            rw [node?_put hc hpdir' (by rw [hnone]; exact nofun), if_pos rfl]
      · have hsame : t.makeDirs (c :: p) = (.error error, t) := by
          rw [makeDirs, hmkdir]
          cases error <;> simp_all
        rw [hsame]
        exact ⟨.refl, nofun⟩

lemma trace_append {descend : Path → List String → Option Path} {cs ds : List String} :
    t.trace descend p (cs ++ ds) = (t.trace descend p cs).bind fun q => t.trace descend q ds := by
  induction cs generalizing p with
  | nil => rfl
  | cons c cs ih =>
    rw [List.cons_append, trace, trace]
    by_cases hdot : c = "" ∨ c = "."
    · rw [if_pos hdot, if_pos hdot]
      exact ih
    · rw [if_neg hdot, if_neg hdot]
      by_cases hup : c = ".."
      · rw [if_pos hup, if_pos hup]
        exact ih
      · rw [if_neg hup, if_neg hup]
        cases t.node? (c :: p) with
        | none => exact ih
        | some e =>
          cases e with
          | link target =>
            show (descend _ _).bind _ = ((descend _ _).bind _).bind _
            rw [Option.bind_assoc]
            congr 1
            funext q
            exact ih
          | dir | file | special => exact ih

/-- The path of a directory has no links to follow. -/
lemma realpath_of_dir (h : t.node? p = some .dir) : t.realpath p = .ok p := by
  have htrace : t.trace (t.traceLinks t.nodes.rows.length) [] p.reverse = some p := by
    induction p with
    | nil => rfl
    | cons c p ih =>
      obtain ⟨hc, hp⟩ := closed_of_node? h
      have hdot : ¬(c = "" ∨ c = ".") := by
        rintro (rfl | rfl)
        · exact hc.1.1 (by decide)
        · exact hc.1.1 (by decide)
      have hup : ¬c = ".." := by
        rintro rfl
        exact hc.1.1 (by decide)
      rw [List.reverse_cons, trace_append, ih hp]
      show t.trace _ p [c] = _
      rw [trace, if_neg hdot, if_neg hup, h]
      rfl
  rw [realpath, if_pos (clean_of_node? (by rw [h]; exact Option.some_ne_none _)), traceLinks,
    htrace]

/-- No name on the path is a step upwards or that of a link. -/
def Straight (t : FileTree β) (q : Path) : Prop :=
  ∀ c p, c :: p <:+ q → c ≠ "" ∧ c ≠ "." ∧ c ≠ ".." ∧ ∀ target, t.node? (c :: p) ≠ some (.link target)

lemma Straight.of_suffix (h : t.Straight q) (hp : p <:+ q) : t.Straight p :=
  fun c r hr => h c r (hr.trans hp)

lemma straight_linkBase {target : String} (h : t.Straight p) :
    t.Straight (linkBase (c :: p) target) := by
  unfold linkBase
  split_ifs
  · exact h.of_suffix (List.nil_suffix)
  · exact h

lemma straight_trace {descend : Path → List String → Option Path} {cs : List String}
    (hdescend : ∀ p ds q, t.Straight p → descend p ds = some q → t.Straight q)
    (hp : t.Straight p) (h : t.trace descend p cs = some q) : t.Straight q := by
  induction cs generalizing p with
  | nil =>
    obtain rfl := Option.some.inj h
    exact hp
  | cons c cs ih =>
    have hgo : c ≠ "" → c ≠ "." → c ≠ ".." → (∀ target, t.node? (c :: p) ≠ some (.link target)) →
        t.Straight (c :: p) := by
      intro hempty hdot hup hlink d r hr
      rcases List.suffix_cons_iff.mp hr with heq | hr
      · obtain ⟨rfl, rfl⟩ := List.cons.inj heq
        exact ⟨hempty, hdot, hup, hlink⟩
      · exact hp d r hr
    rw [trace] at h
    split_ifs at h with hdot hup
    · exact ih hp h
    · exact ih (hp.of_suffix (List.tail_suffix p)) h
    · rw [not_or] at hdot
      cases hnode : t.node? (c :: p) with
      | none =>
        rw [hnode] at h
        exact ih (hgo hdot.1 hdot.2 hup (by rw [hnode]; exact fun _ => nofun)) h
      | some e =>
        rw [hnode] at h
        cases e with
        | link target =>
          obtain ⟨base, hbase, h⟩ := Option.bind_eq_some_iff.mp h
          exact ih (hdescend _ _ _ (straight_linkBase hp) hbase) h
        | dir | file | special =>
          exact ih (hgo hdot.1 hdot.2 hup (by rw [hnode]; exact fun _ => nofun)) h

lemma straight_traceLinks {n : ℕ} {cs : List String} (hp : t.Straight p)
    (h : t.traceLinks n p cs = some q) : t.Straight q := by
  induction n generalizing p cs q with
  | zero => cases h
  | succ n ih => exact straight_trace (fun p ds q hp hq => ih hp hq) hp h

lemma straight_realpath (h : t.realpath p = .ok q) : t.Straight q := by
  unfold realpath at h
  split_ifs at h
  have hnil : t.Straight [] := fun c r hr => by cases List.suffix_nil.mp hr
  cases htrace : t.traceLinks (t.nodes.rows.length + 1) [] p.reverse with
  | none =>
    rw [htrace] at h
    cases h
  | some r =>
    rw [htrace] at h
    obtain rfl := Except.ok.inj h
    exact straight_traceLinks hnil htrace

/-- What is found with no link on the way stands there itself. -/
lemma solid_of_straight (hq : t.Straight q) (h : t.present q = true) : t.Solid q := by
  induction q with
  | nil => exact solid_of_dir rfl
  | cons c q ih =>
    obtain ⟨hempty, hdot, hup, hlink⟩ := hq c q (List.suffix_refl _)
    obtain ⟨e, he⟩ := present_iff.mp h
    obtain ⟨hclean, hdir⟩ := isDir_parent he
    have hsolid := ih (hq.of_suffix (List.suffix_cons c q)) (present_of_isDir hdir)
    have hqdir := (isDir_iff_of_solid hsolid).mp hdir
    rw [stat, lookup_cons hclean, lookup_of_dir hqdir] at he
    cases hnode : t.node? (c :: q) with
    | none =>
      by_cases hc : Proper c
      · simp [walk, scan, hqdir, hempty, hdot, hup, hnode, hc] at he
      · simp [walk, scan, hqdir, hempty, hdot, hup, hnode, hc] at he
    | some e' =>
      refine ⟨e', hnode, ?_⟩
      rintro target rfl
      exact hlink target hnode

/-- A real path that is that of a directory. -/
lemma dir_of_realpath (h : t.realpath p = .ok q) (hdir : t.isDir q = true) :
    t.node? q = some .dir :=
  (isDir_iff_of_solid (solid_of_straight (straight_realpath h) (present_of_isDir hdir))).mp hdir

end Below

/-! ### Copying a directory -/

lemma mem_nodes_iff : ⟨q, e⟩ ∈ t.nodes.rows ↔ q ≠ [] ∧ t.node? q = some e := mem_nodes

section Copy

variable {drop : String → Bool} {src dst : Path}

/-- The copy of one node; devices, pipes and sockets are not copied. -/
def copyNode (drop : String → Bool) (src dst : Path) (n : Node β) : Option (Node β) :=
  (relative src n.path).bind fun r =>
    if r = [] ∨ r.any drop = true ∨ n.entry.isSpecial = true then none else some ⟨r ++ dst, n.entry⟩

lemma copyNode_eq_some {n m : Node β} : copyNode drop src dst n = some m ↔ ∃ r,
    n.path = r ++ src ∧ r ≠ [] ∧ r.any drop = false ∧ n.entry.isSpecial = false ∧
      m = ⟨r ++ dst, n.entry⟩ := by
  unfold copyNode
  rw [Option.bind_eq_some_iff]
  refine exists_congr fun r => ?_
  rw [relative_eq_some]
  refine and_congr_right fun _ => ?_
  split_ifs with h
  · refine ⟨nofun, fun ⟨hr, hdrop, hspecial, _⟩ => ?_⟩
    simp [hr, hdrop, hspecial] at h
  · simp only [not_or, Bool.not_eq_true] at h
    simp [h, eq_comm]

variable (drop src) in
lemma nodup_copy {t : FileTree β} (hvacant : t.node? dst = none) :
    ((t.nodes.rows ++ ⟨dst, .dir⟩ :: t.nodes.rows.filterMap (copyNode drop src dst)).map
      key).Nodup := by
  have hbelow : ∀ q, dst <:+ q → q ∉ t.nodes.rows.map key := by
    intro q hq hmem
    obtain ⟨n, hn, rfl⟩ := List.mem_map.mp hmem
    have hentry := (mem_nodes.mp hn).2
    by_cases hne : n.path = dst
    · rw [hne, hvacant] at hentry
      cases hentry
    · have hnone : t.node? n.path = none :=
        node?_eq_none_of_suffix (by rw [hvacant]; exact nofun) hq hne
      rw [hnone] at hentry
      cases hentry
  have hcopied : ∀ m ∈ t.nodes.rows.filterMap (copyNode drop src dst), ∃ r, r ≠ [] ∧
      m.path = r ++ dst := by
    intro m hm
    obtain ⟨n, -, hcopy⟩ := List.mem_filterMap.mp hm
    obtain ⟨r, -, hr, -, -, rfl⟩ := copyNode_eq_some.mp hcopy
    exact ⟨r, hr, rfl⟩
  rw [List.map_append, List.map_cons]
  refine List.Nodup.append t.nodes.nodup (List.nodup_cons.mpr ⟨?_, ?_⟩) ?_
  · intro hmem
    obtain ⟨m, hm, hkey⟩ := List.mem_map.mp hmem
    obtain ⟨r, hr, hpath⟩ := hcopied m hm
    have hsame : r ++ dst = dst := hpath.symm.trans hkey
    exact hr (by simpa using hsame)
  · rw [List.Nodup, List.pairwise_map, List.pairwise_filterMap]
    refine (List.pairwise_map.mp t.nodes.nodup).imp fun {n n'} hne m hm m' hm' hkey => hne ?_
    obtain ⟨r, hn, -, -, -, rfl⟩ := copyNode_eq_some.mp hm
    obtain ⟨r', hn', -, -, -, rfl⟩ := copyNode_eq_some.mp hm'
    have hrr : r = r' := List.append_cancel_right (hkey : r ++ dst = r' ++ dst)
    show n.path = n'.path
    rw [hn, hn', hrr]
  · intro q hq hq'
    rcases List.mem_cons.mp hq' with rfl | hq'
    · exact hbelow _ (List.suffix_refl _) hq
    · obtain ⟨m, hm, rfl⟩ := List.mem_map.mp hq'
      obtain ⟨r, -, hpath⟩ := hcopied m hm
      exact hbelow (key m) (show dst <:+ m.path from hpath ▸ List.suffix_append r dst) hq

/-- A copy of the directory `src` at `dst`, which is vacant, without the names that `drop` says;
links are copied as links. -/
def copyTree (t : FileTree β) (drop : String → Bool) (src : Path) : Path → FileTree β
  | [] => t
  | d :: dst =>
    if h : t.node? src = some .dir ∧ Proper d ∧ t.node? dst = some .dir ∧
        t.node? (d :: dst) = none then {
      nodes := {
        rows := t.nodes.rows ++ ⟨d :: dst, .dir⟩ ::
          t.nodes.rows.filterMap (copyNode drop src (d :: dst))
        nodup := nodup_copy drop src h.2.2.2 }
      closed := by
        obtain ⟨hsrc, hd, hdst, hvacant⟩ := h
        have hkeep : ∀ q, q = [] ∨ ⟨q, .dir⟩ ∈ t.nodes.rows → q = [] ∨
            (⟨_, nodup_copy drop src hvacant⟩ : Table (Node β)).get? q =
              some ⟨q, .dir⟩ := by
          rintro q (rfl | hq)
          · exact .inl rfl
          · exact .inr (Table.get?_eq_some.mpr ⟨List.mem_append_left _ hq, rfl⟩)
        intro n hn
        rcases List.mem_append.mp hn with hn | hn
        · obtain ⟨c, p, hpath, hc, hp⟩ := t.closed n hn
          exact ⟨c, p, hpath, hc, hkeep p (hp.imp_right Table.mem_of_get?)⟩
        · rcases List.mem_cons.mp hn with rfl | hn
          · refine ⟨d, dst, rfl, hd, hkeep dst ?_⟩
            by_cases hnil : dst = []
            · exact .inl hnil
            · exact .inr (mem_nodes.mpr ⟨hnil, hdst⟩)
          · obtain ⟨n', hn', hcopy⟩ := List.mem_filterMap.mp hn
            obtain ⟨r, hpath, hr, hdrop, -, rfl⟩ := copyNode_eq_some.mp hcopy
            cases r with
            | nil => exact absurd rfl hr
            | cons c r =>
              have hentry := (mem_nodes.mp hn').2
              rw [hpath] at hentry
              obtain ⟨hc, hparent⟩ := closed_of_node? hentry
              refine ⟨c, r ++ d :: dst, rfl, hc, .inr (Table.get?_eq_some.mpr ⟨?_, rfl⟩)⟩
              refine List.mem_append_right _ (List.mem_cons.mpr ?_)
              cases r with
              | nil => exact .inl rfl
              | cons c' r =>
                refine .inr (List.mem_filterMap.mpr ⟨⟨c' :: r ++ src, .dir⟩, ?_, ?_⟩)
                · exact mem_nodes.mpr ⟨List.cons_ne_nil _ _, hparent⟩
                · refine copyNode_eq_some.mpr ⟨c' :: r, rfl, List.cons_ne_nil _ _, ?_, rfl, rfl⟩
                  rw [List.any_cons, Bool.or_eq_false_iff] at hdrop
                  exact hdrop.2 }
    else t

variable {d : String} (hsrc : t.node? src = some .dir) (hd : Proper d)
  (hdst : t.node? dst = some .dir) (hvacant : t.node? (d :: dst) = none)

include hsrc hd hdst hvacant

variable (drop) in
lemma mem_copyTree {n : Node β} : n ∈ (t.copyTree drop src (d :: dst)).nodes.rows ↔
    n ∈ t.nodes.rows ∨ n = ⟨d :: dst, .dir⟩ ∨
      ∃ m ∈ t.nodes.rows, copyNode drop src (d :: dst) m = some n := by
  rw [copyTree, dif_pos ⟨hsrc, hd, hdst, hvacant⟩]
  rw [List.mem_append, List.mem_cons, List.mem_filterMap]

/-- Outside the copy nothing changes. -/
lemma node?_copyTree_of_not_suffix (hq : ¬d :: dst <:+ q) :
    (t.copyTree drop src (d :: dst)).node? q = t.node? q := by
  by_cases hnil : q = []
  · rw [hnil, node?_nil, node?_nil]
  refine Option.ext fun e => ?_
  have hmem := mem_copyTree drop hsrc hd hdst hvacant (n := ⟨q, e⟩)
  rw [mem_nodes_iff, mem_nodes_iff] at hmem
  constructor
  · intro h
    rcases hmem.mp ⟨hnil, h⟩ with h | h | ⟨m, -, hcopy⟩
    · exact h.2
    · obtain rfl : q = d :: dst := congrArg Node.path h
      exact absurd (List.suffix_refl _) hq
    · obtain ⟨r, -, -, -, -, hnode⟩ := copyNode_eq_some.mp hcopy
      obtain rfl : q = r ++ d :: dst := congrArg Node.path hnode
      exact absurd (List.suffix_append r _) hq
  · intro h
    exact (hmem.mpr (.inl ⟨hnil, h⟩)).2

variable (drop) in
/-- The copy has what the source has, but for the names left out and what is special. -/
lemma node?_copyTree (r : Path) : (t.copyTree drop src (d :: dst)).node? (r ++ d :: dst) =
    if r.any drop = true then none else (t.node? (r ++ src)).filter fun e => !e.isSpecial := by
  have hnil : r ++ d :: dst ≠ [] := List.append_ne_nil_of_right_ne_nil r (List.cons_ne_nil d dst)
  have hnone : t.node? (r ++ d :: dst) = none := by
    by_cases hr : r = []
    · rw [hr]
      exact hvacant
    · refine node?_eq_none_of_suffix (by rw [hvacant]; exact nofun) (List.suffix_append r _) ?_
      simpa using hr
  refine Option.ext fun e => ?_
  have hmem := mem_copyTree drop hsrc hd hdst hvacant (n := ⟨r ++ d :: dst, e⟩)
  rw [mem_nodes_iff, mem_nodes_iff, hnone] at hmem
  constructor
  · intro h
    rcases hmem.mp ⟨hnil, h⟩ with ⟨-, h⟩ | h | ⟨m, hm, hcopy⟩
    · cases h
    · obtain ⟨hpath, rfl⟩ := Node.mk.inj h
      obtain rfl : r = [] := by simpa using hpath
      simp [hsrc, Entry.isSpecial]
    · obtain ⟨r', hpath, -, hdrop, hspecial, hnode⟩ := copyNode_eq_some.mp hcopy
      obtain ⟨happ, rfl⟩ := Node.mk.inj hnode
      obtain rfl : r = r' := List.append_cancel_right happ
      have hentry := (mem_nodes.mp hm).2
      rw [hpath] at hentry
      rw [if_neg (by rw [hdrop]; decide), hentry]
      simp [hspecial]
  · intro h
    split_ifs at h with hdrop
    obtain ⟨hentry, hspecial⟩ := Option.filter_eq_some_iff.mp h
    refine (hmem.mpr ?_).2
    by_cases hr : r = []
    · subst hr
      rw [List.nil_append, hsrc] at hentry
      obtain rfl := Option.some.inj hentry
      exact .inr (.inl rfl)
    · refine .inr (.inr ⟨⟨r ++ src, e⟩, ?_, copyNode_eq_some.mpr ⟨r, rfl, hr, ?_, ?_, rfl⟩⟩)
      · exact mem_nodes.mpr ⟨List.append_ne_nil_of_left_ne_nil hr src, hentry⟩
      · simpa using hdrop
      · simpa using hspecial

end Copy

/-! ### Directories stay -/

/-- Every directory of the one tree is there in the other. -/
def KeepsDirs (t t' : FileTree β) : Prop := ∀ p, t.node? p = some .dir → t'.node? p = some .dir

section KeepsDirs

variable {t' t'' : FileTree β}

lemma KeepsDirs.refl : KeepsDirs t t := fun _ h => h

lemma KeepsDirs.trans (h : KeepsDirs t t') (h' : KeepsDirs t' t'') : KeepsDirs t t'' :=
  fun p hp => h' p (h p hp)

lemma keepsDirs_put (t : FileTree β) (q : Path) (e : Entry β) : KeepsDirs t (t.put q e) := by
  intro p hp
  cases q with
  | nil => exact hp
  | cons c q =>
    by_cases h : Proper c ∧ t.node? q = some .dir ∧ t.node? (c :: q) ≠ some .dir
    · rw [node?_put h.1 h.2.1 h.2.2, if_neg]
      · exact hp
      · rintro rfl
        exact h.2.2 hp
    · rw [put, dif_neg h]
      exact hp

lemma keepsDirs_remove (t : FileTree β) (q : Path) : KeepsDirs t (t.remove q) := by
  intro p hp
  by_cases h : t.node? q = some .dir
  · rw [remove, dif_pos h]
    exact hp
  · rw [node?_remove h, if_neg]
    · exact hp
    · rintro rfl
      exact h hp

lemma keepsDirs_mkdir (h : t.mkdir p = .ok t') : KeepsDirs t t' := by
  unfold mkdir at h
  split at h
  · cases h
  · obtain rfl := Except.ok.inj h
    exact keepsDirs_put _ _ _
  · cases h

lemma keepsDirs_symlink {target : String} (h : t.symlink p target = .ok t') : KeepsDirs t t' := by
  unfold symlink at h
  split at h
  · cases h
  · obtain rfl := Except.ok.inj h
    exact keepsDirs_put _ _ _
  · cases h

lemma keepsDirs_makeDirs (t : FileTree β) (p : Path) : KeepsDirs t (t.makeDirs p).2 := by
  induction p with
  | nil => exact .refl
  | cons c p ih =>
    rw [makeDirs]
    split
    · next hmkdir => exact keepsDirs_mkdir hmkdir
    · split
      · next hm =>
        rw [hm] at ih
        exact ih
      · next hm =>
        rw [hm] at ih
        split
        · next hmkdir => exact ih.trans (keepsDirs_mkdir hmkdir)
        · exact ih
        · exact ih
    · exact .refl

end KeepsDirs

/-! ### What is kept -/

/-! ### Ways stay -/

section KeepsWays

variable {t' t'' : FileTree β} {cs : List String}

/-- The ways through a tree stay: its directories and its links. -/
structure KeepsWays (t t' : FileTree β) : Prop where
  dirs : KeepsDirs t t'
  links : ∀ q target, t.node? q = some (.link target) → t'.node? q = some (.link target)

lemma KeepsWays.refl : KeepsWays t t := ⟨.refl, fun _ _ h => h⟩

lemma KeepsWays.trans (h : KeepsWays t t') (h' : KeepsWays t' t'') : KeepsWays t t'' :=
  ⟨h.dirs.trans h'.dirs, fun q target hq => h'.links q target (h.links q target hq)⟩

end KeepsWays

/-- What stands in a tree is left as it is, but for what is at some places. -/
def KeepsAllBut (places : List Path) (t t' : FileTree β) : Prop :=
  ∀ p e, t.node? p = some e → t'.node? p = some e ∨ p ∈ places

namespace KeepsAllBut

variable {places : List Path} {t' t'' : FileTree β}

lemma refl : KeepsAllBut places t t := fun _ _ h => .inl h

lemma trans (h : KeepsAllBut places t t') (h' : KeepsAllBut places t' t'') :
    KeepsAllBut places t t'' := by
  intro p e he
  obtain he' | hp := h p e he
  · exact h' p e he'
  · exact .inr hp

lemma put (hp : t.node? p = none ∨ p ∈ places) (e : Entry β) :
    KeepsAllBut places t (t.put p e) := by
  intro q e' he
  cases p with
  | nil => exact .inl he
  | cons c p =>
    by_cases hput : Proper c ∧ t.node? p = some .dir ∧ t.node? (c :: p) ≠ some .dir
    · rw [node?_put hput.1 hput.2.1 hput.2.2]
      split_ifs with hq
      · subst hq
        obtain hnone | hmem := hp
        · rw [hnone] at he
          cases he
        · exact .inr hmem
      · exact .inl he
    · rw [FileTree.put, dif_neg hput]
      exact .inl he

/-- To put where nothing stands changes nothing that stands. -/
lemma put_of_none (hp : t.node? p = none) (e : Entry β) {q : Path} {e' : Entry β}
    (hq : t.node? q = some e') : (t.put p e).node? q = some e' := by
  have hkeeps : KeepsAllBut [] t (t.put p e) := put (.inl hp) e
  exact (hkeeps q e' hq).resolve_right List.not_mem_nil

lemma remove (hp : p ∈ places) : KeepsAllBut places t (t.remove p) := by
  intro q e he
  by_cases hdir : t.node? p = some .dir
  · rw [FileTree.remove, dif_pos hdir]
    exact .inl he
  · rw [node?_remove hdir]
    split_ifs with hq
    · exact .inr (hq ▸ hp)
    · exact .inl he

lemma of_grown {root : Path} (h : Grown root p t t') : KeepsAllBut places t t' := by
  intro q e he
  obtain hq | ⟨hnone, -⟩ := h q
  · exact .inl (hq.trans he)
  · rw [hnone] at he
    cases he

end KeepsAllBut

end FileTree
end FileSystem
