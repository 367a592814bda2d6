import Mathlib

/-!
# Bytes that are cut off

Bytes are decoded with their errors ignored. If they are the first bytes of a text, all that is
lost is the character that is cut in two.
-/

namespace AiHq

/-- `bytes.decode("utf-8", errors="ignore")`: a byte at which no character starts is passed over. -/
def decodeIgnore (bytes : ByteArray) : List Char :=
  if bytes.size = 0 then []
  else match bytes.utf8DecodeChar? 0 with
    | some c => c :: decodeIgnore (bytes.extract c.utf8Size bytes.size)
    | none => decodeIgnore (bytes.extract 1 bytes.size)
termination_by bytes.size
decreasing_by
  · have hpos := c.utf8Size_pos
    rw [ByteArray.size_extract]
    omega
  · rw [ByteArray.size_extract]
    omega

/-- The characters of which UTF-8 has at most `limit` bytes. -/
def takeUtf8 : ℕ → List Char → List Char
  | _, [] => []
  | limit, c :: cs => if c.utf8Size ≤ limit then c :: takeUtf8 (limit - c.utf8Size) cs else []

variable {bytes : ByteArray} {c : Char}

lemma decodeIgnore_of_size (h : bytes.size = 0) : decodeIgnore bytes = [] := by
  rw [decodeIgnore, if_pos h]

lemma size_utf8Encode_singleton (c : Char) : [c].utf8Encode.size = c.utf8Size := by
  simp [List.utf8Encode_singleton]

lemma decodeIgnore_append (c : Char) (bytes : ByteArray) :
    decodeIgnore ([c].utf8Encode ++ bytes) = c :: decodeIgnore bytes := by
  have hsize := size_utf8Encode_singleton c
  have hpos := c.utf8Size_pos
  rw [decodeIgnore, if_neg (by rw [ByteArray.size_append]; omega)]
  simp only [List.utf8DecodeChar?_utf8Encode_singleton_append]
  rw [ByteArray.extract_append_eq_right hsize.symm (ByteArray.size_append ..)]

/-- Where no byte is the first of a character, nothing is decoded. -/
lemma decodeIgnore_of_forall (h : ∀ i, bytes.utf8DecodeChar? i = none) :
    decodeIgnore bytes = [] := by
  induction hn : bytes.size generalizing bytes with
  | zero => exact decodeIgnore_of_size hn
  | succ n ih =>
    rw [decodeIgnore, if_neg (by omega)]
    simp only [h 0]
    refine ih (fun i => ?_) (by rw [ByteArray.size_extract]; omega)
    have hi := h (1 + i)
    have hend : min (1 + (bytes.extract 1 bytes.size).size) bytes.size = bytes.size := by
      rw [ByteArray.size_extract]
      omega
    rw [ByteArray.utf8DecodeChar?_eq_utf8DecodeChar?_extract] at hi ⊢
    rw [ByteArray.extract_extract, hend]
    exact hi

/-- No character starts in the first bytes of one, if they are not all of them. -/
lemma decodeChar?_cut (c : Char) {limit : ℕ} (h : limit < c.utf8Size) (i : ℕ) :
    ([c].utf8Encode.extract 0 limit).utf8DecodeChar? i = none := by
  have hsize := size_utf8Encode_singleton c
  cases hd : ([c].utf8Encode.extract 0 limit).utf8DecodeChar? i with
  | none => rfl
  | some d =>
    have hfirst := ByteArray.isUTF8FirstByte_of_isSome_utf8DecodeChar? (b := _) (i := i)
      (Option.isSome_iff_exists.mpr ⟨d, hd⟩)
    rw [ByteArray.getElem_extract] at hfirst
    simp only [List.utf8Encode_singleton, List.getElem_toByteArray,
      UInt8.isUTF8FirstByte_getElem_utf8EncodeChar] at hfirst
    obtain rfl : i = 0 := by omega
    -- the character could be read from all bytes of `c` as well
    have hwhole := ByteArray.utf8DecodeChar?_append_eq_some hd
      ([c].utf8Encode.extract limit c.utf8Size)
    rw [← ByteArray.extract_eq_extract_append_extract limit (Nat.zero_le _) (le_of_lt h), ← hsize,
      ByteArray.extract_zero_size, List.utf8DecodeChar?_utf8Encode_singleton] at hwhole
    obtain rfl := Option.some.inj hwhole
    have hle := ByteArray.le_size_of_utf8DecodeChar?_eq_some hd
    rw [ByteArray.size_extract] at hle
    omega

/-- What is decoded from the first bytes of a text are its characters that fit. -/
theorem decodeIgnore_extract (cs : List Char) (limit : ℕ) :
    decodeIgnore (cs.utf8Encode.extract 0 limit) = takeUtf8 limit cs := by
  induction cs generalizing limit with
  | nil => exact decodeIgnore_of_size (by simp)
  | cons c cs ih =>
    have hsize := size_utf8Encode_singleton c
    rw [takeUtf8, List.utf8Encode_cons, ByteArray.extract_append, hsize, Nat.zero_sub]
    split_ifs with hfits
    · have hall : [c].utf8Encode.extract 0 limit = [c].utf8Encode := by
        rw [← hsize] at hfits
        ext1
        rw [ByteArray.data_extract]
        exact Array.extract_eq_self_of_le hfits
      rw [hall, decodeIgnore_append, ih]
    · have hnone : cs.utf8Encode.extract 0 (limit - c.utf8Size) = ByteArray.empty := by
        rw [Nat.sub_eq_zero_of_le (not_le.mp hfits).le, ByteArray.extract_same]
      rw [hnone, ByteArray.append_empty]
      exact decodeIgnore_of_forall (decodeChar?_cut c (not_le.mp hfits))

/-! ### The characters that fit -/

lemma prefix_takeUtf8 (limit : ℕ) (cs : List Char) : takeUtf8 limit cs <+: cs := by
  fun_induction takeUtf8 limit cs with
  | case1 => exact List.prefix_rfl
  | case2 limit c cs hfits ih => exact List.prefix_cons_inj c |>.mpr ih
  | case3 limit c cs hfits => exact List.nil_prefix

lemma size_utf8Encode_cons (c : Char) (cs : List Char) :
    (c :: cs).utf8Encode.size = c.utf8Size + cs.utf8Encode.size := by
  rw [List.utf8Encode_cons, ByteArray.size_append, size_utf8Encode_singleton]

lemma size_takeUtf8_le (limit : ℕ) (cs : List Char) :
    (takeUtf8 limit cs).utf8Encode.size ≤ limit := by
  fun_induction takeUtf8 limit cs with
  | case1 => simp
  | case2 limit c cs hfits ih =>
    rw [size_utf8Encode_cons]
    omega
  | case3 limit c cs hfits => simp

/-- The first character that does not fit has at most four bytes. -/
lemma lt_size_takeUtf8 {limit : ℕ} {cs : List Char} (h : limit < cs.utf8Encode.size) :
    limit < (takeUtf8 limit cs).utf8Encode.size + 4 := by
  fun_induction takeUtf8 limit cs with
  | case1 limit => simp at h
  | case2 limit c cs hfits ih =>
    rw [size_utf8Encode_cons] at h ⊢
    have hrest := ih (by omega)
    omega
  | case3 limit c cs hfits =>
    have hfour := c.utf8Size_le_four
    omega

end AiHq
