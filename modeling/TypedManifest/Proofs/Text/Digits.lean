import TypedManifest.Text.Digits

/-!
# Literals and the numbers they stand for

The decimal digits of a number are a literal for it, and so are the digits of an integer with its
sign in front.
-/

namespace TypedManifest.Text

/-- Only digits are among the digits of a number. -/
theorem not_mem_toDigits {c : Char} (n : Nat) (h : c.isDigit = false) :
    c ∉ Nat.toDigits 10 n := by
  intro hc
  have hdigit : c.isDigit = true := Nat.isDigit_of_mem_toDigits (by decide) (by decide) hc
  simp [h] at hdigit

theorem natural?_toDigits (n : Nat) : natural? (Nat.toDigits 10 n) = some n := by
  have hall : (Nat.toDigits 10 n).all Char.isDigit = true := by
    rw [List.all_eq_true]
    intro c hc
    exact Nat.isDigit_of_mem_toDigits (by decide) (by decide) hc
  rw [natural?, if_pos ⟨Nat.toDigits_ne_nil, hall⟩, Nat.ofDigitChars_ten_toDigits]

theorem naturalUpTo?_toDigits {n max : Nat} (h : n ≤ max) :
    naturalUpTo? max (Nat.toDigits 10 n) = some n := by
  unfold naturalUpTo?
  split
  · next r hr => exact absurd (hr ▸ List.mem_cons_self) (not_mem_toDigits n (by decide))
  · rw [natural?_toDigits, Option.filter_some, if_pos (decide_eq_true h)]

theorem le_of_naturalUpTo? {max n : Nat} {cs : List Char} (h : naturalUpTo? max cs = some n) :
    n ≤ max := by
  simpa using (Option.filter_eq_some_iff.mp h).2

/-- An integer as it is written: digits, behind a sign if the integer is negative. -/
theorem toList_toString_int (n : Int) : (toString n).toList =
    if 0 ≤ n then Nat.toDigits 10 n.toNat else '-' :: Nat.toDigits 10 (-n).toNat := by
  rw [Int.toString_eq_repr, Int.repr_eq_if]
  split
  · rw [Nat.repr_eq_ofList_toDigits, String.toList_ofList]
  · rw [Nat.repr_eq_ofList_toDigits, String.toList_append, String.toList_ofList,
      String.toList_ofList, List.singleton_append]

theorem integer?_toString (n : Int) : integer? (toString n).toList = some n := by
  rw [toList_toString_int]
  by_cases h : 0 ≤ n
  · rw [if_pos h]
    unfold integer?
    split
    · next r hr => exact absurd (hr ▸ List.mem_cons_self) (not_mem_toDigits _ (by decide))
    · next r hr => exact absurd (hr ▸ List.mem_cons_self) (not_mem_toDigits _ (by decide))
    · rw [natural?_toDigits]
      exact congrArg some (Int.toNat_of_nonneg h)
  · have hneg : -((-n).toNat : Int) = n := by omega
    rw [if_neg h, integer?, natural?_toDigits]
    exact congrArg some hneg

theorem integerWithin?_eq_some_iff {min max n : Int} {cs : List Char} :
    integerWithin? min max cs = some n ↔ integer? cs = some n ∧ min ≤ n ∧ n ≤ max := by
  simp [integerWithin?, Option.filter_eq_some_iff]

end TypedManifest.Text
