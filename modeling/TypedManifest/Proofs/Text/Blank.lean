import Mathlib.Data.List.TakeWhile
import TypedManifest.Text.Blank

/-!
# Blanks and where they are trimmed

Trimming a text takes off the blanks at its two ends and no other character. It is told by what it
leaves: the text is what is left with blanks around it, and what is left neither begins nor ends
with a blank (`trim_eq_iff`).
-/

namespace TypedManifest.Text

variable {cs text before after : List Char}

/-- A digit is not blank. -/
theorem isBlank_of_isDigit {c : Char} (h : c.isDigit = true) : isBlank c = false := by
  rw [Char.isDigit_iff_toNat] at h
  have hlo : 48 ≤ c.toNat := h.1
  have hhi : c.toNat ≤ 57 := h.2
  simp only [isBlank, blankRanges, List.any_cons, List.any_nil, Bool.or_false,
    Bool.or_eq_false_iff, Bool.and_eq_false_iff, decide_eq_false_iff_not]
  omega

theorem isBlank_of_any_eq_false (h : cs.any isBlank = false) : ∀ c ∈ cs, isBlank c = false := by
  simpa using h

/-! ### Trimming -/

theorem dropWhile_isBlank_eq_self (h : ∀ c ∈ cs.head?, isBlank c = false) :
    cs.dropWhile isBlank = cs := by
  cases cs with
  | nil => rfl
  | cons c cs =>
    have hc : isBlank c = false := h c rfl
    rw [List.dropWhile_cons_of_neg (by simp [hc])]

theorem trim_append (hbefore : ∀ c ∈ before, isBlank c = true)
    (hafter : ∀ c ∈ after, isBlank c = true) (hhead : ∀ c ∈ text.head?, isBlank c = false)
    (hlast : ∀ c ∈ text.getLast?, isBlank c = false) : trim (before ++ text ++ after) = text := by
  cases text with
  | nil =>
    have hall : (before ++ [] ++ after).dropWhile isBlank = [] := by
      rw [List.dropWhile_eq_nil_iff]
      simpa using fun c hc => hc.elim (hbefore c) (hafter c)
    rw [trim, trimStart, hall]
    rfl
  | cons a rest =>
    have hfront : (a :: rest ++ after).dropWhile isBlank = a :: rest ++ after :=
      dropWhile_isBlank_eq_self hhead
    have hback : (a :: rest).reverse.dropWhile isBlank = (a :: rest).reverse := by
      refine dropWhile_isBlank_eq_self fun c hc => hlast c ?_
      rwa [List.head?_reverse] at hc
    have hreverse : ∀ c ∈ after.reverse, isBlank c = true :=
      fun c hc => hafter c (List.mem_reverse.mp hc)
    rw [trim, trimStart, List.append_assoc, List.dropWhile_append_of_pos hbefore, hfront, trimEnd,
      List.reverse_append, List.dropWhile_append_of_pos hreverse, hback, List.reverse_reverse]

/-- Trimming takes blanks off both ends and leaves no blank there. -/
theorem trim_eq_iff : trim cs = text ↔ ∃ before after, cs = before ++ text ++ after ∧
    (∀ c ∈ before, isBlank c = true) ∧ (∀ c ∈ after, isBlank c = true) ∧
    (∀ c ∈ text.head?, isBlank c = false) ∧ ∀ c ∈ text.getLast?, isBlank c = false := by
  constructor
  · rintro rfl
    have hstart : cs = cs.takeWhile isBlank ++ trimStart cs := List.takeWhile_append_dropWhile.symm
    have hend : trimStart cs =
        trim cs ++ ((trimStart cs).reverse.takeWhile isBlank).reverse := by
      have h := List.takeWhile_append_dropWhile (p := isBlank) (l := (trimStart cs).reverse)
      rw [trim, trimEnd, ← List.reverse_append, h, List.reverse_reverse]
    refine ⟨_, _, by rw [List.append_assoc, ← hend, ← hstart],
      fun c hc => List.mem_takeWhile_imp hc,
      fun c hc => List.mem_takeWhile_imp (List.mem_reverse.mp hc), fun c hc => ?_, fun c hc => ?_⟩
    · have hhead : (trimStart cs).head? = some c := by
        rw [hend, List.head?_append, Option.mem_def.mp hc]
        rfl
      have h := List.head?_dropWhile_not isBlank cs
      rw [← trimStart, hhead] at h
      simpa using h
    · have h := List.head?_dropWhile_not isBlank (trimStart cs).reverse
      rw [trim, trimEnd, List.getLast?_reverse, Option.mem_def] at hc
      rw [hc] at h
      simpa using h
  · rintro ⟨before, after, rfl, hbefore, hafter, hhead, hlast⟩
    exact trim_append hbefore hafter hhead hlast

/-- Blanks around a text that has been trimmed are trimmed again. -/
theorem trim_append_of_trim_eq (hbefore : ∀ c ∈ before, isBlank c = true)
    (hafter : ∀ c ∈ after, isBlank c = true) (h : trim text = text) :
    trim (before ++ text ++ after) = text := by
  obtain ⟨-, -, -, -, -, hhead, hlast⟩ := trim_eq_iff.mp h
  exact trim_append hbefore hafter hhead hlast

theorem trim_trim : trim (trim cs) = trim cs := by
  obtain ⟨-, -, -, -, -, hhead, hlast⟩ := trim_eq_iff.mp (rfl : trim cs = trim cs)
  have h : trim ([] ++ trim cs ++ []) = trim cs := trim_append nofun nofun hhead hlast
  simpa using h

theorem trim_of_blank (h : ∀ c ∈ cs, isBlank c = true) : trim cs = [] :=
  trim_eq_iff.mpr ⟨cs, [], by simp, h, nofun, nofun, nofun⟩

/-- What has been trimmed does not end with a blank. -/
theorem isBlank_of_mem_getLast?_trim {c : Char} (h : c ∈ (trim cs).getLast?) :
    isBlank c = false := by
  obtain ⟨-, -, -, -, -, -, hlast⟩ := trim_eq_iff.mp (rfl : trim cs = trim cs)
  exact hlast c h

/-- There is nothing to trim where there is no blank. -/
theorem trim_eq_self (h : ∀ c ∈ cs, isBlank c = false) : trim cs = cs :=
  trim_eq_iff.mpr ⟨[], [], (List.append_nil _).symm, nofun, nofun,
    fun c hc => h c (List.mem_of_head? hc), fun c hc => h c (List.mem_of_getLast? hc)⟩

end TypedManifest.Text
