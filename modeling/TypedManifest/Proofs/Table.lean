import Mathlib.Data.List.Nodup

/-!
# Tables

A table is a list of rows, each a key and a value. When no two rows have one key, what is found
under a key is what stands there (`mem_iff_lookup`). Keys that come one after the other, some of
them more than once, are counted once each, at the place where they come first.
-/

namespace TypedManifest

variable {α : Type} {rows : List (String × α)} {key : String} {value : α}

theorem lookup_cons_eq_if (k : String) (v : α) :
    ((k, v) :: rows).lookup key = if key = k then some v else rows.lookup key := by
  rw [List.lookup_cons]
  by_cases h : key = k
  · simp [h]
  · rw [if_neg h, beq_false_of_ne h]

theorem mem_iff_lookup (h : (rows.map Prod.fst).Nodup) :
    (key, value) ∈ rows ↔ rows.lookup key = some value := by
  induction rows with
  | nil => simp
  | cons row rows ih =>
    obtain ⟨k, v⟩ := row
    rw [List.map_cons, List.nodup_cons] at h
    rw [List.mem_cons, lookup_cons_eq_if, ih h.2]
    by_cases hk : key = k
    · subst hk
      -- The head is the only row of its key, so nothing is found behind it.
      have hnone : rows.lookup key ≠ some value := by
        intro hl
        have hmem : (key, value) ∈ rows := (ih h.2).mpr hl
        exact h.1 (List.mem_map.mpr ⟨_, hmem, rfl⟩)
      simp [hnone, eq_comm]
    · simp [hk]

theorem lookup_isSome_iff_mem : (rows.lookup key).isSome = true ↔ key ∈ rows.map Prod.fst := by
  simp only [List.lookup_isSome_iff, List.mem_map, beq_iff_eq]
  exact exists_congr fun row => and_congr_right fun _ => eq_comm

/-- The last of many keys counts when it has not come before. -/
theorem eraseDups_append_singleton (keys : List String) :
    (keys ++ [key]).eraseDups =
      if key ∈ keys then keys.eraseDups else keys.eraseDups ++ [key] := by
  rw [List.eraseDups_append]
  by_cases h : key ∈ keys
  · have hgone : [key].removeAll keys = [] := by simp [List.removeAll, h]
    rw [if_pos h, hgone, List.eraseDups_nil, List.append_nil]
  · have hnew : [key].removeAll keys = [key] := by simp [List.removeAll, h]
    rw [if_neg h, hnew]
    rfl

end TypedManifest
