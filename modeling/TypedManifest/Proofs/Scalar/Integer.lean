import TypedManifest.Proofs.Text.Numeral
import TypedManifest.Scalar.Parser

/-!
# Integers of any length

An integer is read in two steps. First the text must be a literal for an integer of 64 bits; if it
is not, a second look at the text alone says whether it is too large, too small or no literal at
all. Together the two steps do what one step would do that knew all integers: what is no literal is
refused as such, what denotes an integer below the least one allowed is refused for that, what
denotes one above the largest of 64 bits is refused for that, and everything else is read
(`parse_integer_literal`).
-/

namespace TypedManifest.Scalar

open Text

variable {min v : Int} {text : List Char} {raw : String}

/-! ### The second look -/

theorem integerFault_of_not_literal (h : integer? text = none) :
    integerFault min text = .notAnInteger := by
  unfold integerFault
  split
  · next digits =>
    rw [integer?_minus, Option.map_eq_none_iff] at h
    simp [h]
  · next digits =>
    rw [integer?_plus, Option.map_eq_none_iff] at h
    simp [h]
  · next hminus hplus =>
    have hnone : natural? text = none := by
      cases hread : natural? text with
      | none => rfl
      | some n =>
        rw [integer?_unsigned (natural?_eq_some_iff.mp hread)] at h
        nomatch h
    simp [hnone]

/-- Only what stands behind a minus sign is too small. -/
theorem integerFault_of_neg (h : DenotesInt text v) (hv : v < 0) :
    integerFault min text = .belowMinimum min := by
  cases h with
  | unsigned h => omega
  | plus h => omega
  | minus h => simp [integerFault, natural?_eq_some_iff.mpr h]

theorem integerFault_of_pos (h : DenotesInt text v) (hv : 0 < v) :
    integerFault min text = .aboveMaximum maxInt := by
  cases h with
  | unsigned h =>
    unfold integerFault
    split
    · exact absurd rfl (h.ne_cons rfl _)
    · exact absurd rfl (h.ne_cons rfl _)
    · rw [natural?_eq_some_iff.mpr h]
      rfl
  | plus h => simp [integerFault, natural?_eq_some_iff.mpr h]
  | minus h => omega

/-! ### Both steps -/

theorem readInteger_of_not_literal (h : integer? (trim raw.toList) = none) :
    readInteger min raw = .error ⟨raw, .notAnInteger⟩ := by
  have hwithin : integerWithin? minInt maxInt (trim raw.toList) = none := by
    rw [integerWithin?, h]
    rfl
  simp only [readInteger, hwithin, integerFault_of_not_literal h]

/-- A literal is judged by the integer it denotes. -/
theorem readInteger_of_literal (hlo : minInt ≤ min) (hhi : min ≤ maxInt)
    (h : DenotesInt (trim raw.toList) v) : readInteger min raw =
      if v < min then .error ⟨raw, .belowMinimum min⟩
      else if maxInt < v then .error ⟨raw, .aboveMaximum maxInt⟩
      else .ok v := by
  have hzero : minInt < 0 ∧ 0 < maxInt := by decide
  by_cases hwithin : minInt ≤ v ∧ v ≤ maxInt
  · have hnot : ¬ maxInt < v := by omega
    simp only [readInteger, integerWithin?_of_denotesInt h, if_pos hwithin, if_neg hnot]
  · -- The integer passes one end of the 64 bits, and the least one allowed lies between the ends.
    simp only [readInteger, integerWithin?_of_denotesInt h, if_neg hwithin]
    obtain hbelow | habove : v < minInt ∨ maxInt < v := by omega
    · have hmin : v < min := by omega
      rw [integerFault_of_neg h (by omega), if_pos hmin]
    · have hmin : ¬ v < min := by omega
      rw [integerFault_of_pos h (by omega), if_neg hmin, if_pos habove]

/-- **What becomes of a text that is to be an integer.** Let the least integer allowed be one of 64
bits. If the text, trimmed, is a literal of whatever length, then it is the integer it denotes that
counts: one that is too small is refused as below the least, one that 64 bits do not hold as above
the greatest, and any other is the result. A text that is no literal is refused as no integer. A
refusal keeps the text as it was given. -/
theorem Parser.parse_integer_literal (min : Int) (hlo : minInt ≤ min) (hhi : min ≤ maxInt)
    (σ : Store) (raw : String) :
    (∀ v, DenotesInt (trim raw.toList) v → (Parser.integerAtLeast min).parse σ raw =
      if v < min then .error ⟨raw, .belowMinimum min⟩
      else if maxInt < v then .error ⟨raw, .aboveMaximum maxInt⟩
      else .ok (.integer v)) ∧
    ((¬ ∃ v, DenotesInt (trim raw.toList) v) →
      (Parser.integerAtLeast min).parse σ raw = .error ⟨raw, .notAnInteger⟩) := by
  constructor
  · intro v h
    rw [Parser.parse, readInteger_of_literal hlo hhi h]
    split
    · rfl
    · split <;> rfl
  · intro h
    rw [Parser.parse, readInteger_of_not_literal (integer?_eq_none_iff.mpr h)]
    rfl

/-- Zeros in front, a minus before a zero, a text that passes the lower end by one and a text with
two signs. -/
theorem Parser.parse_integer_literal_ends :
    (Parser.integerAtLeast 1).parse .empty "\t+007\u00a0" = .ok (.integer 7) ∧
      (Parser.integerAtLeast 1).parse .empty "-0" = .error ⟨"-0", .belowMinimum 1⟩ ∧
      (Parser.integerAtLeast minInt).parse .empty "-9223372036854775809" =
        .error ⟨"-9223372036854775809", .belowMinimum minInt⟩ ∧
      (Parser.integerAtLeast minInt).parse .empty " -+1 " =
        .error ⟨" -+1 ", .notAnInteger⟩ := by
  have hone := parse_integer_literal 1 (by decide) (by decide) .empty
  have hleast := parse_integer_literal minInt (by decide) (by decide) .empty
  have hseven : DenotesInt (trim "\t+007\u00a0".toList) 7 := integer?_eq_some_iff.mp (by decide)
  have hzero : DenotesInt (trim "-0".toList) 0 := integer?_eq_some_iff.mp (by decide)
  have hbelow : DenotesInt (trim "-9223372036854775809".toList) (minInt - 1) :=
    integer?_eq_some_iff.mp (by decide)
  have hsigns : ¬ ∃ v, DenotesInt (trim " -+1 ".toList) v := integer?_eq_none_iff.mp (by decide)
  exact ⟨(hone _).1 7 hseven, (hone _).1 0 hzero, (hleast _).1 _ hbelow, (hleast _).2 hsigns⟩

end TypedManifest.Scalar
