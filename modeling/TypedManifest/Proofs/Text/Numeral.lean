import Mathlib.Data.List.Induction
import TypedManifest.Proofs.Text.Digits

/-!
# Numerals

A numeral denotes a number by the place of its digits: each digit further to the right adds itself
to ten times what stood there before. This module says so without a word of how numerals are read,
and proves that the readers read the numerals and nothing else, whatever their length and however
many zeros they begin with.
-/

namespace TypedManifest.Text

/-- The digits denote the number. -/
inductive Denotes : List Char → Nat → Prop where
  /-- One digit. -/
  | digit {c : Char} : c.isDigit = true → Denotes [c] (c.toNat - '0'.toNat)
  /-- One more digit. -/
  | more {digits : List Char} {n : Nat} {c : Char} : Denotes digits n → c.isDigit = true →
      Denotes (digits ++ [c]) (10 * n + (c.toNat - '0'.toNat))

/-- The digits, behind a sign or not, denote the integer. -/
inductive DenotesInt : List Char → Int → Prop where
  /-- No sign. -/
  | unsigned {digits : List Char} {n : Nat} : Denotes digits n → DenotesInt digits n
  /-- A plus sign. -/
  | plus {digits : List Char} {n : Nat} : Denotes digits n → DenotesInt ('+' :: digits) n
  /-- A minus sign. -/
  | minus {digits : List Char} {n : Nat} : Denotes digits n → DenotesInt ('-' :: digits) (-n)

variable {cs : List Char} {n max : Nat} {v : Int}

theorem Denotes.isDigit (h : Denotes cs n) : ∀ c ∈ cs, c.isDigit = true := by
  induction h with
  | digit hc =>
    intro c hmem
    rw [List.mem_singleton.mp hmem]
    exact hc
  | more _ hc ih =>
    intro c hmem
    obtain hmem | hmem := List.mem_append.mp hmem
    · exact ih c hmem
    · rw [List.mem_singleton.mp hmem]
      exact hc

theorem Denotes.ne_nil (h : Denotes cs n) : cs ≠ [] := by
  cases h <;> simp

theorem Denotes.ofDigitChars_eq (h : Denotes cs n) : Nat.ofDigitChars 10 cs 0 = n := by
  induction h with
  | digit _ => simp [Nat.ofDigitChars_cons]
  | more _ _ ih => rw [Nat.ofDigitChars_append, ih, Nat.ofDigitChars_cons, Nat.ofDigitChars_nil]

/-- Digits denote what is summed up from left to right. -/
theorem denotes_ofDigitChars (hne : cs ≠ []) (h : ∀ c ∈ cs, c.isDigit = true) :
    Denotes cs (Nat.ofDigitChars 10 cs 0) := by
  induction cs using List.reverseRecOn with
  | nil => exact absurd rfl hne
  | append_singleton digits c ih =>
    have hc : c.isDigit = true := h c (by simp)
    rw [Nat.ofDigitChars_append, Nat.ofDigitChars_cons, Nat.ofDigitChars_nil]
    by_cases hdigits : digits = []
    · subst hdigits
      simpa using Denotes.digit hc
    · exact .more (ih hdigits fun c hmem => h c (List.mem_append_left _ hmem)) hc

/-- The numerals are what is read as a number, and each is read as the number it denotes. -/
theorem natural?_eq_some_iff : natural? cs = some n ↔ Denotes cs n := by
  unfold natural?
  constructor
  · intro h
    split at h
    · next hcs =>
      obtain rfl := Option.some.inj h
      exact denotes_ofDigitChars hcs.1 (List.all_eq_true.mp hcs.2)
    · nomatch h
  · intro h
    rw [if_pos ⟨h.ne_nil, List.all_eq_true.mpr h.isDigit⟩, h.ofDigitChars_eq]

/-- A sign is no digit, so a numeral does not begin with one. -/
theorem Denotes.ne_cons (h : Denotes cs n) {c : Char} (hc : c.isDigit = false) (rest : List Char) :
    cs ≠ c :: rest := by
  rintro rfl
  have hdigit := h.isDigit c List.mem_cons_self
  rw [hc] at hdigit
  nomatch hdigit

theorem integer?_minus (digits : List Char) : integer? ('-' :: digits) =
    (natural? digits).map fun n : Nat => (-n : Int) := by
  rw [integer?]
  cases natural? digits <;> rfl

theorem integer?_plus (digits : List Char) : integer? ('+' :: digits) =
    (natural? digits).map fun n : Nat => (n : Int) := rfl

theorem integer?_unsigned (h : Denotes cs n) : integer? cs = some (n : Int) := by
  unfold integer?
  split
  · exact absurd rfl (h.ne_cons rfl _)
  · exact absurd rfl (h.ne_cons rfl _)
  · rw [natural?_eq_some_iff.mpr h]
    rfl

/-- The integer literals are what is read as an integer, and each is read as what it denotes. -/
theorem integer?_eq_some_iff : integer? cs = some v ↔ DenotesInt cs v := by
  constructor
  · intro h
    unfold integer? at h
    split at h
    · next digits =>
      rw [← integer?, integer?_minus] at h
      obtain ⟨n, hn, rfl⟩ := Option.map_eq_some_iff.mp h
      exact .minus (natural?_eq_some_iff.mp hn)
    · obtain ⟨n, hn, rfl⟩ := Option.map_eq_some_iff.mp h
      exact .plus (natural?_eq_some_iff.mp hn)
    · obtain ⟨n, hn, rfl⟩ := Option.map_eq_some_iff.mp h
      exact .unsigned (natural?_eq_some_iff.mp hn)
  · rintro (hn | hn | hn)
    · exact integer?_unsigned hn
    · rw [integer?_plus, natural?_eq_some_iff.mpr hn, Option.map_some]
    · rw [integer?_minus, natural?_eq_some_iff.mpr hn, Option.map_some]

theorem integer?_eq_none_iff : integer? cs = none ↔ ¬ ∃ v, DenotesInt cs v := by
  rw [Option.eq_none_iff_forall_ne_some, not_exists]
  exact forall_congr' fun v => not_congr integer?_eq_some_iff

theorem integerWithin?_eq_some_iff_denotesInt {lo hi : Int} :
    integerWithin? lo hi cs = some v ↔ DenotesInt cs v ∧ lo ≤ v ∧ v ≤ hi := by
  rw [integerWithin?_eq_some_iff, integer?_eq_some_iff]

/-- A literal is read within bounds when what it denotes lies between them. -/
theorem integerWithin?_of_denotesInt {lo hi : Int} (h : DenotesInt cs v) :
    integerWithin? lo hi cs = if lo ≤ v ∧ v ≤ hi then some v else none := by
  rw [integerWithin?, integer?_eq_some_iff.mpr h, Option.filter_some]
  simp

/-- A bounded number may have a plus sign in front. -/
theorem naturalUpTo?_eq_some_iff : naturalUpTo? max cs = some n ↔ n ≤ max ∧
    ∃ sign digits, (sign = [] ∨ sign = ['+']) ∧ Denotes digits n ∧ cs = sign ++ digits := by
  unfold naturalUpTo?
  rw [Option.filter_eq_some_iff, natural?_eq_some_iff, decide_eq_true_eq, and_comm]
  refine and_congr_right fun _ => ?_
  constructor
  · intro h
    split at h
    · next rest => exact ⟨['+'], rest, .inr rfl, h, rfl⟩
    · exact ⟨[], cs, .inl rfl, h, rfl⟩
  · rintro ⟨sign, digits, rfl | rfl, h, hcs⟩
    · obtain rfl : cs = digits := hcs
      split
      · exact absurd rfl (h.ne_cons rfl _)
      · exact h
    · subst hcs
      exact h

/-- Only digits are in a numeral. -/
theorem Denotes.not_mem (h : Denotes cs n) {c : Char} (hc : c.isDigit = false) : c ∉ cs := by
  intro hmem
  rw [h.isDigit c hmem] at hc
  nomatch hc

/-- Behind a minus there is no positive number. -/
theorem DenotesInt.minus_not_mem (h : DenotesInt cs v) (hv : 0 < v) : '-' ∉ cs := by
  cases h with
  | unsigned h => exact h.not_mem rfl
  | plus h => simpa using h.not_mem rfl
  | minus h => omega

/-- The readers agree on what both of them take: a bounded number is an integer without a minus. -/
theorem naturalUpTo?_eq_some_iff_denotesInt : naturalUpTo? max cs = some n ↔
    n ≤ max ∧ '-' ∉ cs ∧ DenotesInt cs n := by
  rw [naturalUpTo?_eq_some_iff]
  refine and_congr_right fun _ => ?_
  constructor
  · rintro ⟨sign, digits, rfl | rfl, h, rfl⟩
    · exact ⟨h.not_mem rfl, .unsigned h⟩
    · exact ⟨by simpa using h.not_mem rfl, .plus h⟩
  · rintro ⟨hminus, h⟩
    generalize hv : (n : Int) = v at h
    cases h with
    | unsigned h =>
      obtain rfl := Int.ofNat.inj hv
      exact ⟨[], cs, .inl rfl, h, rfl⟩
    | plus h =>
      obtain rfl := Int.ofNat.inj hv
      exact ⟨['+'], _, .inr rfl, h, rfl⟩
    | minus h => exact absurd List.mem_cons_self hminus

end TypedManifest.Text
