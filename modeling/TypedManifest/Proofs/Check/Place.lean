import TypedManifest.Check.Path

/-!
# The text of a place

A place below another one has a text that begins with the text of the other. Only at the top there
is no point before a key, so that the text of a place seen from a part is glued behind a point to
the text of the part (`text_append`), provided that neither of them is empty.

Texts of different places may be equal. But a step adds to the text, unless it leads from the top to
an empty key, so that a place has another text than those above it (`foldl_after_cons_ne`); and of
two texts a step that is written behind both does not make one (`after_injective`).
-/

namespace TypedManifest.Check

namespace Step

variable {text : String}

theorem after_key (h : text ≠ "") (k : String) : (key k).after text = text ++ "." ++ k := by
  rw [after, if_neg h]
  rfl

theorem after_item (i : Nat) : (item i).after text = text ++ ("[" ++ toString i ++ "]") := by
  simp only [← String.append_assoc]
  rfl

theorem after_ne_empty (h : text ≠ "") (step : Step) : step.after text ≠ "" := by
  cases step with
  | key k => simp [after_key h, h]
  | item i => simp [after_item, h]

/-- A step is written behind what stands there already. -/
theorem after_append (before : String) (h : text ≠ "") (step : Step) :
    step.after (before ++ text) = before ++ step.after text := by
  have hne : before ++ text ≠ "" := by simp [h]
  cases step with
  | key k => simp only [after_key h, after_key hne, String.append_assoc]
  | item i => simp only [after_item, String.append_assoc]

/-- The text of a place begins with the text of every place that it lies below. -/
theorem exists_after_eq_append (base : String) (step : Step) :
    ∃ rest, step.after base = base ++ rest := by
  by_cases h : base = ""
  · subst h
    exact ⟨step.after "", String.empty_append.symm⟩
  · cases step with
    | key k =>
      refine ⟨"." ++ k, ?_⟩
      rw [after_key h, String.append_assoc]
    | item i => exact ⟨_, after_item i⟩

theorem after_ne_self (step : Step) (h : text = "" → step ≠ key "") : step.after text ≠ text := by
  by_cases ht : text = ""
  · subst ht
    cases step with
    | key k => simpa [after] using h rfl
    | item i => simp [after_item]
  · cases step with
    | key k => simp [after_key ht, String.append_assoc]
    | item i => simp [after_item]

/-- The text of a key alone is only written at the top. -/
theorem eq_empty_of_after_key {k : String} (h : (key k).after text = k) : text = "" := by
  refine Decidable.byContradiction fun ht => ?_
  have hlength := congrArg String.length h
  rw [after_key ht, String.length_append, String.length_append] at hlength
  have hpoint : ".".length = 1 := rfl
  omega

theorem after_injective (step : Step) {s t : String} (h : step.after s = step.after t) : s = t := by
  cases step with
  | item i => simpa [after_item] using h
  | key k =>
    have htop : (key k).after "" = k := rfl
    by_cases hs : s = ""
    · subst hs
      exact (eq_empty_of_after_key (h.symm.trans htop)).symm
    · by_cases ht : t = ""
      · subst ht
        exact eq_empty_of_after_key (h.trans htop)
      · simpa [after_key hs, after_key ht] using h

end Step

namespace Path

theorem foldl_after_append (before : String) (p : Path) : ∀ {text : String}, text ≠ "" →
    p.foldl Step.after (before ++ text) = before ++ p.foldl Step.after text := by
  induction p with
  | nil => exact fun _ => rfl
  | cons step p ih =>
    -- What stands there after a step is not empty either, so later steps add points alike.
    intro text h
    rw [List.foldl_cons, List.foldl_cons, Step.after_append before h]
    exact ih (Step.after_ne_empty h step)

theorem exists_foldl_after_eq_append (p : Path) (base : String) :
    ∃ rest, p.foldl Step.after base = base ++ rest := by
  induction p generalizing base with
  | nil => exact ⟨"", String.append_empty.symm⟩
  | cons step p ih =>
    obtain ⟨rest, hrest⟩ := Step.exists_after_eq_append base step
    obtain ⟨rest', hrest'⟩ := ih (step.after base)
    refine ⟨rest ++ rest', ?_⟩
    rw [List.foldl_cons, hrest', hrest, String.append_assoc]

/-- A place has another text than those that it lies below. -/
theorem foldl_after_cons_ne {step : Step} {base : String} (h : base = "" → step ≠ .key "")
    (p : Path) : (step :: p).foldl Step.after base ≠ base := by
  obtain ⟨rest, hrest⟩ := Step.exists_after_eq_append base step
  obtain ⟨rest', hrest'⟩ := exists_foldl_after_eq_append p (step.after base)
  intro heq
  rw [List.foldl_cons, hrest', hrest, String.append_assoc] at heq
  have hnone : rest = "" := by simp_all
  refine step.after_ne_self h ?_
  rw [hrest, hnone, String.append_empty]

/-- Below a place that has a text, a place that begins with a key is written behind a point. -/
theorem text_append {p q : Path} {k : String} (hp : p.text ≠ "") (hk : k ≠ "") :
    text (p ++ .key k :: q) = p.text ++ "." ++ text (.key k :: q) := by
  calc text (p ++ .key k :: q)
      = q.foldl Step.after (Step.after p.text (.key k)) := by rw [text, List.foldl_append]; rfl
    _ = q.foldl Step.after (p.text ++ "." ++ k) := by rw [Step.after_key hp]
    _ = p.text ++ "." ++ q.foldl Step.after k := foldl_after_append _ q hk
    _ = p.text ++ "." ++ text (.key k :: q) := rfl

end Path

end TypedManifest.Check
