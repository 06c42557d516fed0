import TypedManifest.Proofs.Result
import TypedManifest.Proofs.Text.Blank
import TypedManifest.Proofs.Text.Case
import TypedManifest.Proofs.Text.Cut
import TypedManifest.Proofs.Text.Numeral
import TypedManifest.Scalar.Memory

/-!
# The grammar of memory quantities

A memory quantity is spelled as an amount and the name of a unit, with any blanks between the two;
the amount may have a plus sign in front, and the name is in any case. The reader knows nothing of
this grammar. It takes off every digit, point and sign from the left, trims what remains, and looks
at the two pieces. The pieces come out right because the three kinds of character involved exclude
each other: no blank and no letter of a unit is part of a magnitude, and no letter of a unit is
blank. So the reader accepts what the grammar spells, with the meaning the grammar gives it, and
accepts nothing else (`read_eq_ok_iff_spells`).
-/

namespace TypedManifest.Scalar

open Text

/-! ### Units -/

namespace MemoryUnit

/-- The first letter of the unit's names. -/
def capital : MemoryUnit → Char
  | megabytes => 'M'
  | gigabytes => 'G'

/-- The same letter in lower case. -/
def small : MemoryUnit → Char
  | megabytes => 'm'
  | gigabytes => 'g'

/-- The text names the unit. -/
inductive Names (u : MemoryUnit) : List Char → Prop where
  /-- By the first letter alone. -/
  | short {c : Char} : c = u.capital ∨ c = u.small → Names u [c]
  /-- With a second letter, for bytes. -/
  | long {c b : Char} : c = u.capital ∨ c = u.small → b = 'B' ∨ b = 'b' → Names u [c, b]

variable {u : MemoryUnit} {text : List Char}

theorem toUpper_eq_capital_iff (u : MemoryUnit) (c : Char) :
    c.toUpper = u.capital ↔ c = u.capital ∨ c = u.small := by
  cases u <;> exact toUpper_eq_iff rfl rfl

/-- The names of a unit are what its two names in upper case are folded from. -/
theorem names_iff : u.Names text ↔ upper text = [u.capital] ∨ upper text = [u.capital, 'B'] := by
  have hbytes (b : Char) : b.toUpper = 'B' ↔ b = 'B' ∨ b = 'b' := toUpper_eq_iff rfl rfl
  constructor
  · rintro (hc | ⟨hc, hb⟩)
    · exact .inl (congrArg (fun c => [c]) ((u.toUpper_eq_capital_iff _).mpr hc))
    · rw [← u.toUpper_eq_capital_iff] at hc
      rw [← hbytes] at hb
      exact .inr (by rw [upper, List.map_cons, List.map_cons, List.map_nil, hc, hb])
  · rintro (h | h)
    · obtain ⟨c, rfl, hc⟩ := List.map_eq_singleton_iff.mp h
      exact .short ((u.toUpper_eq_capital_iff c).mp hc)
    · obtain ⟨c, rest, rfl, hc, hrest⟩ := List.map_eq_cons_iff.mp h
      obtain ⟨b, rfl, hb⟩ := List.map_eq_singleton_iff.mp hrest
      exact .long ((u.toUpper_eq_capital_iff c).mp hc) ((hbytes b).mp hb)

/-- The names of the units are what is read as a unit. -/
theorem read?_eq_some_iff : read? text = some u ↔ u.Names text := by
  rw [names_iff, read?]
  constructor
  · intro h
    split at h
    case h_1 hupper | h_3 hupper =>
      obtain rfl := Option.some.inj h
      exact .inl hupper
    case h_2 hupper | h_4 hupper =>
      obtain rfl := Option.some.inj h
      exact .inr hupper
    case h_5 => nomatch h
  · rintro (h | h) <;> cases u <;> simp [h, capital]

/-- No letter of a name is blank or part of a magnitude. -/
theorem Names.letters (h : u.Names text) :
    ∀ c ∈ text, isBlank c = false ∧ Memory.isMagnitude c = false := by
  have hfirst {c : Char} (hc : c = u.capital ∨ c = u.small) :
      isBlank c = false ∧ Memory.isMagnitude c = false := by
    cases u <;> obtain rfl | rfl := hc <;> decide
  have hsecond {b : Char} (hb : b = 'B' ∨ b = 'b') :
      isBlank b = false ∧ Memory.isMagnitude b = false := by
    obtain rfl | rfl := hb <;> decide
  cases h with
  | short hc => simpa using hfirst hc
  | long hc hb => simpa using ⟨hfirst hc, hsecond hb⟩

end MemoryUnit

/-! ### Quantities -/

namespace Memory

/-- The text spells the quantity: a sign or none, the digits of the amount, blanks or none, and a
name of the unit. -/
inductive Spells (m : Memory) : List Char → Prop where
  /-- The four pieces in a row. -/
  | pieces {sign digits blanks name : List Char} : sign = [] ∨ sign = ['+'] →
      Denotes digits m.amount → 1 ≤ m.amount → m.amount ≤ maxWord →
      (∀ c ∈ blanks, isBlank c = true) → m.unit.Names name →
      Spells m (sign ++ digits ++ blanks ++ name)

variable {m : Memory} {cs magnitude rest : List Char} {c : Char} {raw : String}

theorem isMagnitude_of_isDigit (h : c.isDigit = true) : isMagnitude c = true := by
  simp [isMagnitude, h]

theorem isMagnitude_of_isBlank (h : isBlank c = true) : isMagnitude c = false := by
  by_contra hc
  simp only [Bool.not_eq_false, isMagnitude, Bool.or_eq_true, beq_iff_eq] at hc
  obtain ((hc | rfl) | rfl) | rfl := hc
  · rw [isBlank_of_isDigit hc] at h
    nomatch h
  all_goals exact absurd h (by decide)

theorem readUnit_eq_ok_iff {amount : Nat} : readUnit amount rest = .ok m ↔
    m.amount = amount ∧ MemoryUnit.read? rest = some m.unit ∧ 1 ≤ amount := by
  obtain ⟨amount', u⟩ := m
  unfold readUnit
  split
  · next hrest => simp [hrest, MemoryUnit.read?, upper]
  cases MemoryUnit.read? rest with
  | none => simp
  | some u' =>
    by_cases hzero : amount = 0
    · simp [hzero]
    · simp [hzero, Nat.one_le_iff_ne_zero, eq_comm]

/-- A trimmed text is read from its two pieces, each for itself. -/
theorem readTrimmed_eq_ok_iff (hcut : cutBefore (!isMagnitude ·) cs = (magnitude, rest)) :
    readTrimmed cs = .ok m ↔ naturalUpTo? maxWord magnitude = some m.amount ∧
      MemoryUnit.read? (trim rest) = some m.unit ∧ 1 ≤ m.amount := by
  unfold readTrimmed
  split
  · next hcs =>
    subst hcs
    obtain ⟨rfl, rfl⟩ := Prod.mk.inj hcut
    exact iff_of_false nofun fun h => nomatch h.1
  · simp only [hcut]
    cases naturalUpTo? maxWord magnitude with
    | none => simp
    | some amount =>
      simp only [readUnit_eq_ok_iff, Option.some.injEq, eq_comm (a := amount)]
      refine and_congr_right fun h => ?_
      rw [h]

/-- What is spelled is cut behind the amount. -/
theorem cutBefore_spelled {sign digits blanks name : List Char} {n : Nat} {u : MemoryUnit}
    (hsign : sign = [] ∨ sign = ['+']) (hdigits : Denotes digits n)
    (hblanks : ∀ c ∈ blanks, isBlank c = true) (hname : u.Names name) :
    cutBefore (!isMagnitude ·) (sign ++ digits ++ blanks ++ name) =
      (sign ++ digits, blanks ++ name) := by
  rw [List.append_assoc]
  refine cutBefore_append (fun c hc => ?_) fun c hc => ?_
  · rw [Bool.not_eq_false']
    obtain hc | hc := List.mem_append.mp hc
    · obtain rfl | rfl := hsign
      · nomatch hc
      · obtain rfl := List.mem_singleton.mp hc
        rfl
    · exact isMagnitude_of_isDigit (hdigits.isDigit c hc)
  · rw [Bool.not_eq_true']
    obtain hc | hc := List.mem_append.mp (List.mem_of_head? hc)
    · exact isMagnitude_of_isBlank (hblanks c hc)
    · exact (hname.letters c hc).2

theorem readTrimmed_of_spells (h : m.Spells cs) : readTrimmed cs = .ok m := by
  obtain @⟨sign, digits, blanks, name, hsign, hdigits, hpos, hmax, hblanks, hname⟩ := h
  refine (readTrimmed_eq_ok_iff (cutBefore_spelled hsign hdigits hblanks hname)).mpr
    ⟨naturalUpTo?_eq_some_iff.mpr ⟨hmax, sign, digits, hsign, hdigits, rfl⟩, ?_, hpos⟩
  have htrim : trim (blanks ++ name) = name :=
    trim_eq_iff.mpr ⟨blanks, [], (List.append_nil _).symm, hblanks, nofun,
      fun c hc => (hname.letters c (List.mem_of_head? hc)).1,
      fun c hc => (hname.letters c (List.mem_of_getLast? hc)).1⟩
  rw [htrim]
  exact MemoryUnit.read?_eq_some_iff.mpr hname

/-- Nothing else is read, of a text that does not end with a blank. -/
theorem spells_of_readTrimmed (hlast : ∀ c ∈ cs.getLast?, isBlank c = false)
    (h : readTrimmed cs = .ok m) : m.Spells cs := by
  obtain ⟨⟨magnitude, rest⟩, hcut⟩ : ∃ pieces, cutBefore (!isMagnitude ·) cs = pieces := ⟨_, rfl⟩
  obtain ⟨hamount, hunit, hpos⟩ := (readTrimmed_eq_ok_iff hcut).mp h
  obtain ⟨rfl, -, -⟩ := cutBefore_eq_iff.mp hcut
  obtain ⟨hmax, sign, digits, hsign, hdigits, rfl⟩ := naturalUpTo?_eq_some_iff.mp hamount
  have hname := MemoryUnit.read?_eq_some_iff.mp hunit
  obtain ⟨before, after, hrest, hbefore, hafter, -, -⟩ := trim_eq_iff.mp (rfl : trim rest = _)
  -- The trimmed rest has nothing behind it, for a last blank would be the last of the whole text.
  obtain rfl : after = [] := by
    cases hend : after.getLast? with
    | none => exact List.getLast?_eq_none_iff.mp hend
    | some c =>
      have hblank := hafter c (List.mem_of_getLast? hend)
      have hc : c ∈ (sign ++ digits ++ rest).getLast? := by
        rw [hrest]
        simp [List.getLast?_append, hend]
      rw [hlast c hc] at hblank
      nomatch hblank
  rw [hrest, List.append_nil, ← List.append_assoc]
  exact .pieces hsign hdigits hpos hmax hbefore hname

theorem Spells.amount_le (h : m.Spells cs) : m.amount ≤ maxWord := by
  obtain ⟨-, -, -, hmax, -, -⟩ := h
  exact hmax

/-- A quantity has its size in megabytes, as far as 64 bits hold it. -/
theorem inMegabytes_eq (h : m.amount ≤ maxWord) : m.inMegabytes = match m.unit with
    | .megabytes => min m.amount maxWord
    | .gigabytes => min (1024 * m.amount) maxWord := by
  obtain ⟨amount, u⟩ := m
  cases u with
  | megabytes => exact (min_eq_left h).symm
  | gigabytes => rfl

/-- **The memory quantities and their spelling.** A text is read as a quantity exactly when,
trimmed, it spells that quantity; and the size of what has been read is its amount in megabytes, or
1024 times its amount where the unit is the gigabyte, or the largest number of 64 bits where that
is less. -/
theorem read_eq_ok_iff_spells (raw : String) (m : Memory) :
    (read raw = .ok m ↔ m.Spells (trim raw.toList)) ∧
      (read raw = .ok m → m.inMegabytes = match m.unit with
        | .megabytes => min m.amount maxWord
        | .gigabytes => min (1024 * m.amount) maxWord) := by
  have hread : read raw = .ok m ↔ m.Spells (trim raw.toList) := by
    rw [read, mapError_eq_ok_iff]
    exact ⟨spells_of_readTrimmed fun c => isBlank_of_mem_getLast?_trim, readTrimmed_of_spells⟩
  exact ⟨hread, fun h => inMegabytes_eq (hread.mp h).amount_le⟩

/-- Zeros in front, blanks between and a name in mixed case; and the largest amount of all, whose
size is more than 64 bits hold. -/
theorem read_eq_ok_iff_spells_largest :
    (Spells ⟨7, .gigabytes⟩ (trim " +007\t gB\u2003".toList) ∧
      read " +007\t gB\u2003" = .ok ⟨7, .gigabytes⟩ ∧ inMegabytes ⟨7, .gigabytes⟩ = 7168) ∧
    (read "18446744073709551615G" = .ok ⟨maxWord, .gigabytes⟩ ∧
      inMegabytes ⟨maxWord, .gigabytes⟩ = maxWord) := by
  have hseven : Spells ⟨7, .gigabytes⟩ (['+'] ++ ['0', '0', '7'] ++ ['\t', ' '] ++ ['g', 'B']) :=
    .pieces (.inr rfl) (.more (.more (.digit rfl) rfl) rfl) (by decide) (by decide)
      (List.all_eq_true.mp rfl) (.long (.inr rfl) (.inl rfl))
  have htrim : trim " +007\t gB\u2003".toList =
      ['+'] ++ ['0', '0', '7'] ++ ['\t', ' '] ++ ['g', 'B'] := by decide
  rw [← htrim] at hseven
  have hread := (read_eq_ok_iff_spells _ _).1.mpr hseven
  have hlargest : read "18446744073709551615G" = .ok ⟨maxWord, .gigabytes⟩ := by decide
  exact ⟨⟨hseven, hread, (read_eq_ok_iff_spells _ _).2 hread⟩, hlargest,
    (read_eq_ok_iff_spells _ _).2 hlargest⟩

end Memory

end TypedManifest.Scalar
