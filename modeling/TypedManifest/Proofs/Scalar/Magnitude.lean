import TypedManifest.Proofs.Scalar.Memory
import TypedManifest.Scalar.Parser

/-!
# Magnitudes out of range

The magnitude of a memory quantity is read as a natural number of 64 bits. If it is none, a second
look asks whether it is an integer of 64 bits below one, which is a number out of range. The second
look knows no other integers, so an integer that 64 bits hold neither with a sign nor without is
refused as no number at all, on both sides of zero (`Parser.memory_notANumber_iff`).
-/

namespace TypedManifest.Scalar

open Text

namespace Memory

variable {magnitude rest : List Char} {amount : Nat} {v : Int}

/-- Once an amount has been read, all that can be wrong is the unit, or that the amount is zero. -/
theorem readUnit_ne_notANumber : readUnit amount rest ≠ .error .notANumber := by
  unfold readUnit
  split
  · simp
  · split
    · simp
    · split <;> simp

/-! ### The second look -/

/-- A literal that is positive and no natural number of 64 bits is too large. -/
theorem maxWord_lt_of_denotesInt (hread : naturalUpTo? maxWord magnitude = none)
    (h : DenotesInt magnitude v) (hv : 0 < v) : (maxWord : Int) < v := by
  obtain ⟨n, rfl⟩ := Int.eq_ofNat_of_zero_le (Int.le_of_lt hv)
  by_contra hle
  have hsome : naturalUpTo? maxWord magnitude = some n :=
    naturalUpTo?_eq_some_iff_denotesInt.mpr ⟨by omega, h.minus_not_mem hv, h⟩
  rw [hread] at hsome
  nomatch hsome

/-- What is no natural number of 64 bits is a number to the second look if 64 bits hold it with a
sign, and then it is below one. -/
theorem magnitudeFault_of_natural_eq_none (hread : naturalUpTo? maxWord magnitude = none) :
    magnitudeFault magnitude =
      if (integerWithin? minInt maxInt magnitude).isSome then .belowMinimum 1 else .notANumber := by
  unfold magnitudeFault
  cases hwithin : integerWithin? minInt maxInt magnitude with
  | none => rfl
  | some v =>
    obtain ⟨hv, -, hle⟩ := integerWithin?_eq_some_iff_denotesInt.mp hwithin
    have hmax : maxInt < (maxWord : Int) := by decide
    -- A positive number that 64 bits hold with a sign they hold without one too.
    have hbelow : v < 1 := by
      by_contra hpos
      have hlarge := maxWord_lt_of_denotesInt hread hv (by omega)
      omega
    simp [hbelow]

/-- Between the ends of what 64 bits hold, with a sign or without, lies what one of the two looks
takes for a number. -/
theorem integerWithin?_isSome_iff (hread : naturalUpTo? maxWord magnitude = none) :
    (integerWithin? minInt maxInt magnitude).isSome = true ↔
      ∃ v, DenotesInt magnitude v ∧ minInt ≤ v ∧ v ≤ maxWord := by
  have hmax : 0 < maxInt ∧ maxInt < (maxWord : Int) := by decide
  rw [Option.isSome_iff_exists]
  refine exists_congr fun v => integerWithin?_eq_some_iff_denotesInt.trans ?_
  refine and_congr_right fun hv => and_congr_right fun _ => ?_
  constructor
  · intro hle
    omega
  · -- What lies between the two upper ends would have been read at the first look.
    intro hle
    by_contra hlarge
    have hword := maxWord_lt_of_denotesInt hread hv (by omega)
    omega

/-! ### Both looks -/

variable {cs : List Char}

/-- A text that is not blank is refused as no number exactly when both looks fail. -/
theorem readTrimmed_eq_notANumber_iff (hcut : cutBefore (!isMagnitude ·) cs = (magnitude, rest)) :
    readTrimmed cs = .error .notANumber ↔
      cs ≠ [] ∧ ¬ ∃ v, DenotesInt magnitude v ∧ minInt ≤ v ∧ v ≤ maxWord := by
  unfold readTrimmed
  split
  · next hcs => simp [hcs]
  · next hcs =>
    simp only [hcut]
    cases hread : naturalUpTo? maxWord magnitude with
    | some amount =>
      obtain ⟨hle, -, hv⟩ := naturalUpTo?_eq_some_iff_denotesInt.mp hread
      have hmin : minInt ≤ 0 := by decide
      refine iff_of_false readUnit_ne_notANumber fun h => h.2 ⟨amount, hv, ?_, ?_⟩
      · omega
      · omega
    | none =>
      rw [← integerWithin?_isSome_iff hread, magnitudeFault_of_natural_eq_none hread]
      simp [hcs]

/-- With a minus, the magnitude is no natural number, and only the second look counts. -/
theorem readTrimmed_of_minus (hcut : cutBefore (!isMagnitude ·) cs = (magnitude, rest))
    (hminus : '-' ∈ magnitude) (h : DenotesInt magnitude v) :
    readTrimmed cs = .error (if v < minInt then .notANumber else .belowMinimum 1) := by
  have hv : v ≤ 0 := by
    by_contra hpos
    exact h.minus_not_mem (by omega) hminus
  have hmax : 0 ≤ maxInt := by decide
  have hread : naturalUpTo? maxWord magnitude = none := by
    rw [Option.eq_none_iff_forall_ne_some]
    intro n hn
    exact (naturalUpTo?_eq_some_iff_denotesInt.mp hn).2.1 hminus
  have hcs : cs ≠ [] := by
    rintro rfl
    obtain ⟨rfl, -⟩ := Prod.mk.inj hcut
    nomatch hminus
  unfold readTrimmed
  rw [if_neg hcs]
  simp only [hcut, hread, magnitudeFault_of_natural_eq_none hread]
  rw [integerWithin?_of_denotesInt h]
  by_cases hmin : v < minInt
  · have hnot : ¬ (minInt ≤ v ∧ v ≤ maxInt) := by omega
    simp [hnot, hmin]
  · have hwithin : minInt ≤ v ∧ v ≤ maxInt := by omega
    simp [hwithin, hmin]

end Memory

/-! ### Memory quantities -/

/-- **When a memory quantity counts as no number.** The magnitude of a text is its longest
beginning, after the blanks, of digits, points and signs. A text that is not blank is refused as no
number exactly when its magnitude is no literal for an integer between the least integer and the
largest natural number of 64 bits. A literal with a minus is refused as below one if 64 bits hold
what it denotes, and otherwise, although it denotes an integer below one, as no number. -/
theorem Parser.memory_notANumber_iff (σ : Store) (raw : String) (magnitude rest : List Char)
    (htext : trim raw.toList = magnitude ++ rest)
    (hmagnitude : ∀ c ∈ magnitude, Memory.isMagnitude c = true)
    (hrest : ∀ c ∈ rest.head?, Memory.isMagnitude c = false) :
    (Parser.memory.parse σ raw = .error ⟨raw, .notANumber⟩ ↔
      trim raw.toList ≠ [] ∧ ¬ ∃ v, DenotesInt magnitude v ∧ minInt ≤ v ∧ v ≤ maxWord) ∧
    ∀ v, '-' ∈ magnitude → DenotesInt magnitude v → Parser.memory.parse σ raw =
      .error ⟨raw, if v < minInt then .notANumber else .belowMinimum 1⟩ := by
  have hcut : cutBefore (!Memory.isMagnitude ·) (trim raw.toList) = (magnitude, rest) := by
    refine cutBefore_eq_iff.mpr ⟨htext, fun c hc => ?_, fun c hc => ?_⟩
    · rw [hmagnitude c hc]
      rfl
    · rw [hrest c hc]
      rfl
  have hfault (cause : Cause) : Parser.memory.parse σ raw = .error ⟨raw, cause⟩ ↔
      Memory.readTrimmed (trim raw.toList) = .error cause := by
    rw [Parser.parse, map_eq_error_iff, Memory.read, mapError_eq_error_iff]
    simp
  constructor
  · rw [hfault]
    exact Memory.readTrimmed_eq_notANumber_iff hcut
  · intro v hminus hv
    rw [hfault]
    exact Memory.readTrimmed_of_minus hcut hminus hv

/-- The least integer of 64 bits and the one below it, and the first number that is too large. -/
theorem Parser.memory_notANumber_iff_ends :
    Parser.memory.parse .empty "-9223372036854775808M" =
        .error ⟨"-9223372036854775808M", .belowMinimum 1⟩ ∧
      Parser.memory.parse .empty " -9223372036854775809 gb" =
        .error ⟨" -9223372036854775809 gb", .notANumber⟩ ∧
      Parser.memory.parse .empty "18446744073709551616" =
        .error ⟨"18446744073709551616", .notANumber⟩ := by
  have hleast := memory_notANumber_iff .empty "-9223372036854775808M"
    "-9223372036854775808".toList "M".toList (by decide) (List.all_eq_true.mp (by decide))
    (by rintro _ ⟨⟩; rfl)
  have hbelow := memory_notANumber_iff .empty " -9223372036854775809 gb"
    "-9223372036854775809".toList " gb".toList (by decide) (List.all_eq_true.mp (by decide))
    (by rintro _ ⟨⟩; rfl)
  have habove := memory_notANumber_iff .empty "18446744073709551616"
    "18446744073709551616".toList [] (by decide) (List.all_eq_true.mp (by decide)) nofun
  have hbelowOne := hleast.2 minInt (by decide) (integer?_eq_some_iff.mp (by decide))
  rw [if_neg (Int.lt_irrefl minInt)] at hbelowOne
  have hrefused := hbelow.2 (minInt - 1) (by decide) (integer?_eq_some_iff.mp (by decide))
  rw [if_pos (by decide)] at hrefused
  refine ⟨hbelowOne, hrefused, habove.1.mpr ⟨by decide, ?_⟩⟩
  rintro ⟨v, hv, -, hle⟩
  obtain rfl : maxWord + 1 = v :=
    Option.some.inj ((by decide : some _ = integer? _).trans (integer?_eq_some_iff.mpr hv))
  omega

/-- An integer with a minus is not always refused as below one: where 64 bits do not hold it, it is
refused as no number. -/
theorem Parser.memory_notANumber_although_integer :
    ¬ ∀ (σ : Store) (raw : String) (magnitude rest : List Char) (v : Int),
      trim raw.toList = magnitude ++ rest →
      (∀ c ∈ magnitude, Memory.isMagnitude c = true) →
      (∀ c ∈ rest.head?, Memory.isMagnitude c = false) → DenotesInt magnitude v →
      Parser.memory.parse σ raw ≠ .error ⟨raw, .notANumber⟩ ∧
        ('-' ∈ magnitude → Parser.memory.parse σ raw = .error ⟨raw, .belowMinimum 1⟩) := by
  intro h
  have hrefused := (h .empty "-99999999999999999999M" "-99999999999999999999".toList "M".toList
    (-99999999999999999999) (by decide) (List.all_eq_true.mp (by decide)) (by rintro _ ⟨⟩; rfl)
    (integer?_eq_some_iff.mp (by decide))).1
  exact hrefused (by decide)

end TypedManifest.Scalar
