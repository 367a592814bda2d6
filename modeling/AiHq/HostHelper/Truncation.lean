import AiHq.HostHelper.Executor

/-!
# Truncation of logs

A text that is too long is cut off after a number of bytes. What is left of it are whole
characters, and as many of them as fit.
-/

namespace AiHq

lemma size_toUTF8_ofList (cs : List Char) : (String.ofList cs).toUTF8.size = cs.utf8Encode.size := by
  rw [String.toUTF8_eq_toByteArray, String.toByteArray_ofList]

/-- The characters that are left of a text. -/
lemma truncateUtf8_eq (text : String) (limit : ℕ) : truncateUtf8 text limit =
    if text.toUTF8.size ≤ limit then (text, false)
    else (String.ofList (takeUtf8 limit text.toList), true) := by
  have hencoded : text.toUTF8 = text.toList.utf8Encode := by
    rw [String.toUTF8_eq_toByteArray, ← String.toByteArray_ofList, String.ofList_toList]
  rw [← decodeIgnore_extract, ← hencoded, truncateUtf8]

lemma prefix_truncateUtf8 (text : String) (limit : ℕ) :
    (truncateUtf8 text limit).1.toList <+: text.toList ∧
      ((truncateUtf8 text limit).2 = false → (truncateUtf8 text limit).1 = text) := by
  rw [truncateUtf8_eq]
  split_ifs
  · exact ⟨List.prefix_rfl, fun _ => rfl⟩
  · rw [String.toList_ofList]
    exact ⟨prefix_takeUtf8 _ _, fun h => absurd h (by decide)⟩

/-- What is left of a text is a first part of it that has at most `limit` bytes, and more than
`limit - 4` if anything is missing. -/
theorem truncateUtf8_spec (text : String) (limit : ℕ) :
    (truncateUtf8 text limit).1.toList <+: text.toList ∧
      (truncateUtf8 text limit).1.toUTF8.size ≤ limit ∧
      (limit < text.toUTF8.size → limit < (truncateUtf8 text limit).1.toUTF8.size + 4) ∧
      ((truncateUtf8 text limit).2 = true ↔ limit < text.toUTF8.size) := by
  refine ⟨(prefix_truncateUtf8 text limit).1, ?_⟩
  rw [truncateUtf8_eq]
  split_ifs with hsize
  · exact ⟨hsize, fun hlong => absurd hsize (not_le.mpr hlong), by simpa using hsize⟩
  · have hlong := not_le.mp hsize
    have hlist : limit < text.toList.utf8Encode.size := by
      rwa [← size_toUTF8_ofList, String.ofList_toList]
    simp only [size_toUTF8_ofList]
    exact ⟨size_takeUtf8_le _ _, fun _ => lt_size_takeUtf8 hlist, by simpa using hlong⟩

/-- A character of two bytes does not fit into one. -/
example : truncateUtf8 "aé" 2 = ("a", true) := by
  rw [truncateUtf8_eq]
  decide

end AiHq
