import TypedManifest.Text.Cut

/-!
# Text in segments

A text is cut into segments at every occurrence of a character. The segments hold that character no
longer, and the text ends in the segments of another one exactly when it is that one, or ends in it
behind the character (`splitOn_isSuffix_splitOn_iff`).
-/

namespace TypedManifest.Text

variable {α : Type} [BEq α] [LawfulBEq α] {c : α} {as bs : List α}

theorem not_mem_of_mem_splitOn {segment : List α} (h : segment ∈ as.splitOn c) : c ∉ segment := by
  induction as generalizing segment with
  | nil =>
    rw [List.splitOn_nil, List.mem_singleton] at h
    simp [h]
  | cons a as ih =>
    rw [List.splitOn_cons_eq_if_modifyHead] at h
    split at h
    · obtain rfl | h := List.mem_cons.mp h
      · simp
      · exact ih h
    · next ha =>
      -- The first character goes in front of the first segment of the rest.
      obtain ⟨first, others, hsplit⟩ := List.exists_cons_of_ne_nil (List.splitOn_ne_nil c as)
      rw [hsplit, List.modifyHead_cons] at h
      obtain rfl | h := List.mem_cons.mp h
      · have hca : c ≠ a := by
          rintro rfl
          simp at ha
        have hfirst : c ∉ first := ih (by simp [hsplit])
        simp [hca, hfirst]
      · exact ih (by simp [hsplit, h])

/-- The segments of a text make up the text again, so texts with the same segments are the same. -/
theorem splitOn_inj : as.splitOn c = bs.splitOn c ↔ as = bs := by
  constructor
  · intro h
    calc as = [c].intercalate (as.splitOn c) := (List.intercalate_splitOn c).symm
      _ = [c].intercalate (bs.splitOn c) := by rw [h]
      _ = bs := List.intercalate_splitOn c
  · rintro rfl
    rfl

theorem intercalate_append_splitOn {segments : List (List α)} (h : segments ≠ []) :
    [c].intercalate (segments ++ as.splitOn c) = [c].intercalate segments ++ c :: as := by
  induction segments with
  | nil => exact absurd rfl h
  | cons segment segments ih =>
    cases segments with
    | nil =>
      rw [List.singleton_append, List.intercalate_cons_of_ne_nil (List.splitOn_ne_nil c as),
        List.intercalate_splitOn, List.intercalate_singleton]
      simp
    | cons next segments =>
      rw [List.cons_append, List.cons_append, List.intercalate_cons_cons, ← List.cons_append,
        ih (by simp), List.intercalate_cons_cons]
      simp

/-- A text ends in the segments of another one when it is that one, or ends in it behind the
character at which both are cut. -/
theorem splitOn_isSuffix_splitOn_iff :
    as.splitOn c <:+ bs.splitOn c ↔ as = bs ∨ c :: as <:+ bs := by
  constructor
  · rintro ⟨segments, h⟩
    by_cases hsegments : segments = []
    · subst hsegments
      exact .inl (splitOn_inj.mp h)
    · refine .inr ⟨[c].intercalate segments, ?_⟩
      rw [← intercalate_append_splitOn hsegments, h, List.intercalate_splitOn]
  · rintro (rfl | ⟨before, rfl⟩)
    · exact List.suffix_refl _
    · rw [List.splitOn_append_cons_self]
      exact List.suffix_append _ _

/-- Characters are replaced in a text by replacing them in its segments, as long as only the
character at which the text is cut is replaced by that character. -/
theorem splitOn_map {f : α → α} (hf : ∀ a, f a = c ↔ a = c) :
    (as.map f).splitOn c = (as.splitOn c).map (List.map f) := by
  have hbeq (a : α) : (f a == c) = (a == c) := by
    rw [Bool.eq_iff_iff, beq_iff_eq, beq_iff_eq]
    exact hf a
  induction as with
  | nil => simp
  | cons a as ih =>
    obtain ⟨first, others, hsplit⟩ := List.exists_cons_of_ne_nil (List.splitOn_ne_nil c as)
    rw [List.map_cons, List.splitOn_cons_eq_if_modifyHead, List.splitOn_cons_eq_if_modifyHead, ih,
      hbeq]
    split
    · simp
    · simp [hsplit]

end TypedManifest.Text
