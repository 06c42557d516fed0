import Mathlib.Data.List.TakeWhile
import TypedManifest.Text.Cut

/-!
# Where a text is cut

A cut is told by its two pieces: they make up the text, and the place between them is the first of
its kind (`cutBefore_eq_iff`) or the last (`cutLast_eq_some_iff`).
-/

namespace TypedManifest.Text

variable {cs before after : List Char} {c : Char} {p : Char → Bool}

/-! ### Before the first character of a class -/

theorem cutBefore_append (hbefore : ∀ c ∈ before, p c = false)
    (hafter : ∀ c ∈ after.head?, p c = true) :
    cutBefore p (before ++ after) = (before, after) := by
  have hkeep : ∀ c ∈ before, (!p c) = true := by
    intro c hc
    rw [hbefore c hc]
    rfl
  rw [cutBefore, List.takeWhile_append_of_pos hkeep, List.dropWhile_append_of_pos hkeep]
  cases after with
  | nil => simp
  | cons a after =>
    have ha : p a = true := hafter a rfl
    simp [ha]

/-- Before the cut there is no character of the class, and behind it there is one, if anything. -/
theorem cutBefore_eq_iff : cutBefore p cs = (before, after) ↔
    cs = before ++ after ∧ (∀ c ∈ before, p c = false) ∧ ∀ c ∈ after.head?, p c = true := by
  constructor
  · intro h
    obtain ⟨rfl, rfl⟩ := Prod.mk.inj h
    refine ⟨List.takeWhile_append_dropWhile.symm, fun c hc => ?_, fun c hc => ?_⟩
    · simpa using List.mem_takeWhile_imp hc
    · have hhead := List.head?_dropWhile_not (!p ·) cs
      rw [Option.mem_def.mp hc] at hhead
      simpa using hhead
  · rintro ⟨rfl, hbefore, hafter⟩
    exact cutBefore_append hbefore hafter

/-! ### At the last character of a kind -/

theorem cutLast_append (h : c ∉ after) :
    cutLast c (before ++ c :: after) = some (before, after) := by
  have hkeep : ∀ x ∈ after.reverse, (x != c) = true := by
    intro x hx
    rw [List.mem_reverse] at hx
    exact bne_iff_ne.mpr (ne_of_mem_of_not_mem hx h)
  have hreverse : (before ++ c :: after).reverse = after.reverse ++ c :: before.reverse := by simp
  rw [cutLast, hreverse, List.dropWhile_append_of_pos hkeep, List.takeWhile_append_of_pos hkeep]
  simp

theorem cutLast_of_not_mem (h : c ∉ cs) : cutLast c cs = none := by
  have hdrop : cs.reverse.dropWhile (· != c) = [] := by
    rw [List.dropWhile_eq_nil_iff]
    intro x hx
    rw [List.mem_reverse] at hx
    exact bne_iff_ne.mpr (ne_of_mem_of_not_mem hx h)
  rw [cutLast, hdrop]

/-- A text with the character has a last one. -/
theorem exists_eq_append_cons_last (h : c ∈ cs) : ∃ before after, cs = before ++ c :: after ∧
    c ∉ after := by
  obtain ⟨as, bs, hcs, hc⟩ := List.eq_append_cons_of_mem (List.mem_reverse.mpr h)
  refine ⟨bs.reverse, as.reverse, ?_, by rwa [List.mem_reverse]⟩
  rw [← List.reverse_reverse cs, hcs]
  simp

theorem cutLast_eq_none_iff : cutLast c cs = none ↔ c ∉ cs := by
  constructor
  · intro h hc
    obtain ⟨before, after, rfl, hafter⟩ := exists_eq_append_cons_last hc
    rw [cutLast_append hafter] at h
    nomatch h
  · exact cutLast_of_not_mem

/-- The cut is at the character, and there is no other one behind it. -/
theorem cutLast_eq_some_iff : cutLast c cs = some (before, after) ↔
    cs = before ++ c :: after ∧ c ∉ after := by
  constructor
  · intro h
    have hc : c ∈ cs := by
      by_contra hc
      rw [cutLast_of_not_mem hc] at h
      nomatch h
    obtain ⟨before', after', rfl, hafter⟩ := exists_eq_append_cons_last hc
    rw [cutLast_append hafter] at h
    obtain ⟨rfl, rfl⟩ := Prod.mk.inj (Option.some.inj h)
    exact ⟨rfl, hafter⟩
  · rintro ⟨rfl, hafter⟩
    exact cutLast_append hafter

end TypedManifest.Text
