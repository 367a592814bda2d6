import AiHq.Recovery.Service

/-!
# Bounded diagnostics

The recovery service keeps diagnostics of any shape within fixed limits. What is within them stays
as it is, whatever keys have become the same when they were shortened.
-/

namespace AiHq
namespace Diagnostics

/-! ### Assignments -/

section Assign

variable {β ι : Type} {d : List (String × β)} {key : String} {value : β} {field : String × β}
  {name : ι → String} {item : ι → β} {items : List ι}

/-- `d[key] = value`: a key that is there already keeps its place. -/
def assign : List (String × β) → String → β → List (String × β)
  | [], key, value => [(key, value)]
  | (name, old) :: d, key, value =>
    if name = key then (key, value) :: d else (name, old) :: assign d key value

/-- A loop that assigns one value after the other. -/
def collect (name : ι → String) (item : ι → β) (d : List (String × β)) (items : List ι) :
    List (String × β) :=
  items.foldl (fun d x => assign d (name x) (item x)) d

lemma assign_of_notMem (h : key ∉ d.map Prod.fst) : assign d key value = d ++ [(key, value)] := by
  induction d with
  | nil => rfl
  | cons field d ih =>
    obtain ⟨hfield, hd⟩ := not_or.mp (List.mem_cons.not.mp h)
    rw [assign, if_neg fun heq => hfield heq.symm, ih hd, List.cons_append]

lemma keys_assign (h : key ∈ d.map Prod.fst) :
    (assign d key value).map Prod.fst = d.map Prod.fst := by
  induction d with
  | nil => cases h
  | cons field d ih =>
    rw [assign]
    split_ifs with hname
    · rw [List.map_cons, List.map_cons, hname]
    · obtain heq | h := List.mem_cons.mp h
      · exact absurd heq.symm hname
      · rw [List.map_cons, List.map_cons, ih h]

lemma mem_of_mem_assign (h : field ∈ assign d key value) : field ∈ d ∨ field = (key, value) := by
  induction d with
  | nil => exact .inr (List.mem_singleton.mp h)
  | cons old d ih =>
    rw [assign] at h
    split_ifs at h with hname
    · obtain rfl | h := List.mem_cons.mp h
      · exact .inr rfl
      · exact .inl (List.mem_cons_of_mem old h)
    · obtain rfl | h := List.mem_cons.mp h
      · exact .inl List.mem_cons_self
      · exact (ih h).imp_left (List.mem_cons_of_mem old)

lemma nodup_assign (h : (d.map Prod.fst).Nodup) : ((assign d key value).map Prod.fst).Nodup := by
  by_cases hkey : key ∈ d.map Prod.fst
  · rwa [keys_assign hkey]
  · rw [assign_of_notMem hkey, List.map_append]
    exact List.nodup_append'.mpr ⟨h, List.nodup_singleton _, by simpa using hkey⟩

lemma length_assign_le (d : List (String × β)) (key : String) (value : β) :
    (assign d key value).length ≤ d.length + 1 := by
  by_cases hkey : key ∈ d.map Prod.fst
  · have hlength : ((assign d key value).map Prod.fst).length = (d.map Prod.fst).length :=
      congrArg List.length (keys_assign hkey)
    rw [List.length_map, List.length_map] at hlength
    omega
  · rw [assign_of_notMem hkey, List.length_append, List.length_singleton]

lemma nodup_collect (h : (d.map Prod.fst).Nodup) :
    ((collect name item d items).map Prod.fst).Nodup := by
  induction items generalizing d with
  | nil => exact h
  | cons x items ih => exact ih (nodup_assign h)

lemma length_collect_le (name : ι → String) (item : ι → β) (d : List (String × β))
    (items : List ι) : (collect name item d items).length ≤ d.length + items.length := by
  induction items generalizing d with
  | nil => exact le_rfl
  | cons x items ih =>
    have hassign := length_assign_le d (name x) (item x)
    have hrest := ih (assign d (name x) (item x))
    rw [List.length_cons]
    exact hrest.trans (by omega)

lemma mem_of_mem_collect (h : field ∈ collect name item d items) :
    field ∈ d ∨ ∃ x ∈ items, field = (name x, item x) := by
  induction items generalizing d with
  | nil => exact .inl h
  | cons x items ih =>
    obtain h | ⟨y, hy, rfl⟩ := ih h
    · exact (mem_of_mem_assign h).imp_right fun heq => ⟨x, List.mem_cons_self, heq⟩
    · exact .inr ⟨y, List.mem_cons_of_mem x hy, rfl⟩

/-- Where no two keys are the same, the loop goes over the fields one by one. -/
lemma collect_of_nodup (h : (d.map Prod.fst ++ items.map name).Nodup) :
    collect name item d items = d ++ items.map fun x => (name x, item x) := by
  induction items generalizing d with
  | nil => exact (List.append_nil d).symm
  | cons x items ih =>
    have hx : name x ∉ d.map Prod.fst := by
      intro hmem
      exact (List.nodup_append'.mp h).2.2 hmem (List.mem_map_of_mem List.mem_cons_self)
    have hrest : ((d ++ [(name x, item x)]).map Prod.fst ++ items.map name).Nodup := by
      rw [List.map_append, List.append_assoc]
      exact h
    rw [collect, List.foldl_cons, assign_of_notMem hx]
    refine (ih hrest).trans ?_
    rw [List.append_assoc, List.map_cons, List.singleton_append]

end Assign

/-! ### Values -/

/-- A key: a text, or another object. -/
inductive Key (α : Type) where
  | str (s : String)
  | object (a : α)

/-- A value of any type. What is no text, number, mapping or sequence is an object of `α`. -/
inductive Value (α : Type) where
  | null
  | bool (b : Bool)
  | int (n : ℤ)
  | float (text : String)
  | str (s : String)
  | mapping (items : List (Key α × Value α))
  | list (xs : List (Value α))
  | tuple (xs : List (Value α))
  | object (a : α)

variable {α : Type} (str : α → String)

/-- `str(key)` -/
def Key.text : Key α → String
  | .str s => s
  | .object a => str a

/-- `_bounded_value`, with `levels` of nesting left. -/
def boundedValue : ℕ → Value α → Value α
  | 0, _ => .str "[truncated]"
  | _ + 1, .str s => .str (slice s 1024)
  | levels + 1, .mapping items => .mapping ((collect (fun item => slice (item.1.text str) 128)
      (fun item => boundedValue levels item.2) [] (items.take 32)).map fun field =>
        (.str field.1, field.2))
  | levels + 1, .list xs | levels + 1, .tuple xs => .list ((xs.take 20).map (boundedValue levels))
  | _ + 1, .object a => .str (slice (str a) 1024)
  | _ + 1, value => value

/-- The limits for a value that is nested to a depth of at most `n`. -/
inductive Within : ℕ → Value α → Prop where
  | null {n : ℕ} : Within n .null
  | bool {n : ℕ} (b : Bool) : Within n (.bool b)
  | int {n : ℕ} (i : ℤ) : Within n (.int i)
  | float {n : ℕ} (text : String) : Within n (.float text)
  | str {n : ℕ} {s : String} (h : s.length ≤ 1024) : Within n (.str s)
  | mapping {n : ℕ} {items : List (Key α × Value α)} (hsize : items.length ≤ 32)
      (hkeys : ∀ item ∈ items, ∃ key, item.1 = .str key ∧ key.length ≤ 128)
      (hitems : ∀ item ∈ items, Within n item.2) : Within (n + 1) (.mapping items)
  | list {n : ℕ} {xs : List (Value α)} (hsize : xs.length ≤ 20) (hitems : ∀ x ∈ xs, Within n x) :
      Within (n + 1) (.list xs)

variable {str}

lemma length_slice_le (s : String) (n : ℕ) : (slice s n).length ≤ n := by
  rw [slice, String.length_ofList]
  exact List.length_take_le n _

lemma slice_eq_self {s : String} {n : ℕ} (h : s.length ≤ n) : slice s n = s := by
  rw [slice, List.take_of_length_le h, String.ofList_toList]

/-- The fields of a mapping that is bounded. -/
def boundedFields (str : α → String) (levels : ℕ) (items : List (Key α × Value α)) :
    List (String × Value α) :=
  collect (fun item => slice (item.1.text str) 128) (fun item => boundedValue str levels item.2) []
    (items.take 32)

lemma boundedValue_mapping (levels : ℕ) (items : List (Key α × Value α)) :
    boundedValue str (levels + 1) (.mapping items) =
      .mapping ((boundedFields str levels items).map fun field => (.str field.1, field.2)) := rfl

variable {levels : ℕ} {items : List (Key α × Value α)} {field : String × Value α}

lemma length_boundedFields_le (levels : ℕ) (items : List (Key α × Value α)) :
    (boundedFields str levels items).length ≤ 32 := by
  refine (length_collect_le _ _ _ _).trans ?_
  rw [List.length_nil, Nat.zero_add]
  exact List.length_take_le 32 items

lemma of_mem_boundedFields (h : field ∈ boundedFields str levels items) :
    field.1.length ≤ 128 ∧ ∃ item ∈ items, field.2 = boundedValue str levels item.2 := by
  obtain ⟨item, hitem, rfl⟩ := (mem_of_mem_collect h).resolve_left List.not_mem_nil
  exact ⟨length_slice_le _ 128, item, List.mem_of_mem_take hitem, rfl⟩

lemma within_boundedValue (str : α → String) (levels : ℕ) (v : Value α) :
    Within levels (boundedValue str levels v) := by
  induction levels generalizing v with
  | zero => exact .str (by decide)
  | succ levels ih =>
    cases v with
    | null => exact .null
    | bool b => exact .bool b
    | int i => exact .int i
    | float text => exact .float text
    | str s => exact .str (length_slice_le s 1024)
    | object a => exact .str (length_slice_le _ 1024)
    | list xs | tuple xs =>
      refine .list ?_ fun x hx => ?_
      · rw [List.length_map]
        exact List.length_take_le 20 xs
      · obtain ⟨x', -, rfl⟩ := List.mem_map.mp hx
        exact ih x'
    | mapping items =>
      rw [boundedValue_mapping]
      refine .mapping ?_ (fun item hitem => ?_) fun item hitem => ?_
      · rw [List.length_map]
        exact length_boundedFields_le levels items
      · obtain ⟨field, hfield, rfl⟩ := List.mem_map.mp hitem
        exact ⟨field.1, rfl, (of_mem_boundedFields hfield).1⟩
      · obtain ⟨field, hfield, rfl⟩ := List.mem_map.mp hitem
        obtain ⟨-, item', -, hvalue⟩ := of_mem_boundedFields hfield
        simp only [hvalue]
        exact ih item'.2

/-- The fields of a bounded mapping are its own once more, if the values are. -/
lemma boundedFields_boundedFields (ih : ∀ v : Value α,
      boundedValue str levels (boundedValue str levels v) = boundedValue str levels v) :
    boundedFields str levels
        ((boundedFields str levels items).map fun field => (.str field.1, field.2)) =
      boundedFields str levels items := by
  set fields := boundedFields str levels items with hfields
  have hkeep (field : String × Value α) (h : field ∈ fields) :
      (slice field.1 128, boundedValue str levels field.2) = field := by
    obtain ⟨hkey, item, -, hvalue⟩ := of_mem_boundedFields h
    exact Prod.ext (slice_eq_self hkey) (by rw [hvalue, ih])
  have hkeys : (fields.map fun field => slice field.1 128) = fields.map Prod.fst :=
    List.map_congr_left fun field h => congrArg Prod.fst (hkeep field h)
  have hnodup : (fields.map Prod.fst).Nodup := nodup_collect List.nodup_nil
  let item (field : String × Value α) : Key α × Value α := (.str field.1, field.2)
  have hall : (fields.map item).take 32 = fields.map item := by
    refine List.take_of_length_le ?_
    rw [List.length_map]
    exact length_boundedFields_le levels items
  rw [boundedFields, hall, collect_of_nodup, List.nil_append, List.map_map]
  · exact (List.map_congr_left hkeep).trans (List.map_id fields)
  · rw [List.map_nil, List.nil_append, List.map_map]
    exact hkeys ▸ hnodup

lemma boundedValue_boundedValue (levels : ℕ) (v : Value α) :
    boundedValue str levels (boundedValue str levels v) = boundedValue str levels v := by
  induction levels generalizing v with
  | zero => rfl
  | succ levels ih =>
    cases v with
    | null | bool | int | float => rfl
    | str s => exact congrArg Value.str (slice_eq_self (length_slice_le s 1024))
    | object a => exact congrArg Value.str (slice_eq_self (length_slice_le (str a) 1024))
    | list xs | tuple xs =>
      refine congrArg Value.list ?_
      rw [List.take_of_length_le, List.map_map]
      · exact List.map_congr_left fun x _ => ih x
      · rw [List.length_map]
        exact List.length_take_le 20 xs
    | mapping items =>
      rw [boundedValue_mapping, boundedValue_mapping, boundedFields_boundedFields ih]

/-- A diagnostic value comes within the limits, and stays as it is from then on. -/
theorem bounded_diagnostics (str : α → String) (v : Value α) :
    Within 4 (boundedValue str 4 v) ∧
      boundedValue str 4 (boundedValue str 4 v) = boundedValue str 4 v :=
  ⟨within_boundedValue str 4 v, boundedValue_boundedValue 4 v⟩

/-- Two keys that become the same have the place of the first and the value of the second. -/
example : boundedValue (fun n : ℕ => toString n) 2
    (.mapping [(.object 1, .null), (.str "2", .bool true), (.str "1", .int 5)]) =
      .mapping [(.str "1", .int 5), (.str "2", .bool true)] := by
  rfl

/-! ### JSON -/

mutual
/-- JSON as a value of any type. -/
def ofJson : Json → Value α
  | .null => .null
  | .bool b => .bool b
  | .int n => .int n
  | .float _ text => .float text
  | .str s => .str s
  | .list xs => .list (ofJsonList xs)
  | .obj fields => .mapping (ofJsonFields fields)

def ofJsonList : List Json → List (Value α)
  | [] => []
  | x :: xs => ofJson x :: ofJsonList xs

def ofJsonFields : List (String × Json) → List (Key α × Value α)
  | [] => []
  | (key, x) :: fields => (.str key, ofJson x) :: ofJsonFields fields
end

lemma ofJsonList_eq (xs : List Json) : ofJsonList xs = xs.map (ofJson (α := α)) := by
  induction xs with
  | nil => rfl
  | cons x xs ih => rw [ofJsonList, ih, List.map_cons]

/-- A field of a dictionary. -/
def ofField (field : String × Json) : String × Value α := (field.1, ofJson field.2)

lemma ofJsonFields_eq (fields : Dict) : ofJsonFields fields =
    (fields.map (ofField (α := α))).map fun field => (.str field.1, field.2) := by
  induction fields with
  | nil => rfl
  | cons field fields ih => rw [ofJsonFields, ih, List.map_cons, List.map_cons, ofField]

lemma map_set (d : Dict) (key : String) (x : Json) :
    (Dict.set d key x).map (ofField (α := α)) = assign (d.map ofField) key (ofJson x) := by
  induction d with
  | nil => rfl
  | cons field d ih =>
    rw [Dict.set, List.map_cons, ofField, assign]
    split_ifs
    · rfl
    · rw [List.map_cons, ih, ofField]

lemma boundedValue_obj (levels : ℕ) (fields : Dict) :
    AiHq.boundedValue (levels + 1) (.obj fields) =
      .obj ((fields.take 32).foldl (fun bounded field =>
        Dict.set bounded (slice field.1 128) (AiHq.boundedValue levels field.2)) []) := rfl

/-- JSON is bounded in the same way. -/
theorem boundedValue_ofJson (levels : ℕ) (x : Json) :
    boundedValue str levels (ofJson x) = ofJson (AiHq.boundedValue levels x) := by
  induction levels generalizing x with
  | zero => rfl
  | succ levels ih =>
    cases x with
    | null | bool | int | float | str => rfl
    | list xs =>
      show Value.list _ = Value.list (ofJsonList _)
      rw [ofJsonList_eq, ofJsonList_eq, ← List.map_take, List.map_map, List.map_map]
      exact congrArg Value.list (List.map_congr_left fun x _ => ih x)
    | obj fields =>
      have hfold (d : Dict) (fields : Dict) : (fields.foldl (fun bounded field =>
          Dict.set bounded (slice field.1 128) (AiHq.boundedValue levels field.2)) d).map ofField =
          collect (fun item => slice (item.1.text str) 128)
            (fun item => boundedValue str levels item.2) (d.map ofField) (ofJsonFields fields) := by
        induction fields generalizing d with
        | nil => rfl
        | cons field fields ihf =>
          rw [List.foldl_cons, ihf, map_set, ← ih]
          rfl
      have htake : (ofJsonFields fields : List (Key α × Value α)).take 32 =
          ofJsonFields (fields.take 32) := by
        rw [ofJsonFields_eq, ofJsonFields_eq, List.map_take, List.map_take]
      rw [boundedValue_obj, ofJson, ofJson, boundedValue_mapping, boundedFields, htake,
        ofJsonFields_eq (List.foldl ..), hfold]
      rfl

/-- What the recovery service keeps with an incident is within the limits. -/
theorem within_boundedMapping (value : Option Dict) :
    Within 4 (ofJson (α := α) (.obj (boundedMapping value))) := by
  cases value with
  | none =>
    refine .mapping (Nat.zero_le 32) (fun item hitem => ?_) fun item hitem => ?_
    · cases hitem
    · cases hitem
  | some fields =>
    have hbounded := within_boundedValue (fun _ : α => "") 4 (ofJson (.obj fields))
    rwa [boundedValue_ofJson] at hbounded

end Diagnostics
end AiHq
