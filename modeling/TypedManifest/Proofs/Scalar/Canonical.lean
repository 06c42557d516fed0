import TypedManifest.Proofs.Scalar.Memory
import TypedManifest.Proofs.Scalar.Route
import TypedManifest.Scalar.Parser

/-!
# Canonical texts

A parser turns a text into a value, and a value has one text that it is written as. Many texts may
stand for one value: `+7` and `007`, `1gb` and `1G`. For the rules that are built in the canonical
text is one of them (`Parser.parse_render`), so that parsing twice is the same as parsing once; and
no value is left out, neither an integer of 64 bits nor an amount of memory that fits in as many.
-/

namespace TypedManifest.Scalar

open Text

/-! ### Integers -/

section Integer

variable {min n : Int} {raw : String}

theorem readInteger_eq_ok_iff : readInteger min raw = .ok n ↔
    integerWithin? minInt maxInt (trim raw.toList) = some n ∧ min ≤ n := by
  unfold readInteger
  cases hread : integerWithin? minInt maxInt (trim raw.toList) with
  | none => simp [hread]
  | some m =>
    by_cases hmin : m < min
    · have hnot : ¬ (some m = some n ∧ min ≤ n) := by
        rintro ⟨hmn, hle⟩
        obtain rfl := Option.some.inj hmn
        omega
      simpa [hread, hmin] using hnot
    · have hle : min ≤ m := by omega
      simp only [hread, hmin, if_false, Except.ok.injEq, Option.some.injEq]
      exact ⟨fun h => ⟨h, h ▸ hle⟩, fun h => h.1⟩

theorem isBlank_toString (n : Int) : ∀ c ∈ (toString n).toList, isBlank c = false := by
  have hdigits (m : Nat) : ∀ c ∈ Nat.toDigits 10 m, isBlank c = false := fun c hc =>
    isBlank_of_isDigit (Nat.isDigit_of_mem_toDigits (by decide) (by decide) hc)
  intro c hc
  rw [toList_toString_int] at hc
  split at hc
  · exact hdigits _ c hc
  · obtain rfl | hc := List.mem_cons.mp hc
    · decide
    · exact hdigits _ c hc

/-- An integer that is not too small, and that 64 bits hold, is read as it is written. -/
theorem readInteger_toString (hmin : min ≤ n) (hlo : minInt ≤ n) (hhi : n ≤ maxInt) :
    readInteger min (toString n) = .ok n := by
  refine readInteger_eq_ok_iff.mpr ⟨?_, hmin⟩
  rw [trim_eq_self (isBlank_toString n)]
  exact integerWithin?_eq_some_iff.mpr ⟨integer?_toString n, hlo, hhi⟩

end Integer

/-! ### Memory -/

namespace MemoryUnit

theorem isBlank_letter (u : MemoryUnit) : ∀ c ∈ u.letter.toList, isBlank c = false := by
  cases u <;> simp [letter, isBlank, blankRanges]

theorem read?_letter (u : MemoryUnit) : read? u.letter.toList = some u := by
  cases u <;> decide

end MemoryUnit

namespace Memory

variable {m : Memory} {raw : String}

/-- A quantity that can be written: a positive amount that 64 bits hold. -/
def InRange (m : Memory) : Prop := 1 ≤ m.amount ∧ m.amount ≤ maxWord

/-- No other quantity is ever read. -/
theorem inRange_of_readTrimmed {cs : List Char} (h : readTrimmed cs = .ok m) : m.InRange := by
  obtain ⟨hamount, -, hpos⟩ := (readTrimmed_eq_ok_iff rfl).mp h
  exact ⟨hpos, le_of_naturalUpTo? hamount⟩

theorem inRange_of_read (h : read raw = .ok m) : m.InRange :=
  inRange_of_readTrimmed (mapError_eq_ok_iff.mp h)

theorem toList_text (m : Memory) : m.text.toList =
    Nat.toDigits 10 m.amount ++ m.unit.letter.toList := by
  simp [text, Nat.repr_eq_ofList_toDigits]

theorem cutBefore_text (m : Memory) : cutBefore (!isMagnitude ·) m.text.toList =
    (Nat.toDigits 10 m.amount, m.unit.letter.toList) := by
  rw [toList_text]
  refine cutBefore_append (fun c hc => ?_) ?_
  · have hdigit : c.isDigit = true := Nat.isDigit_of_mem_toDigits (by decide) (by decide) hc
    simp [isMagnitude, hdigit]
  · cases m.unit <;> simp [MemoryUnit.letter, isMagnitude]

theorem isBlank_text (m : Memory) : ∀ c ∈ m.text.toList, isBlank c = false := by
  intro c hc
  rw [toList_text] at hc
  obtain hc | hc := List.mem_append.mp hc
  · exact isBlank_of_isDigit (Nat.isDigit_of_mem_toDigits (by decide) (by decide) hc)
  · exact m.unit.isBlank_letter c hc

/-- A quantity is read as it is written. -/
theorem read_text (h : m.InRange) : read m.text = .ok m := by
  obtain ⟨hpos, hle⟩ := h
  have hunit : MemoryUnit.read? (trim m.unit.letter.toList) = some m.unit := by
    rw [trim_eq_self m.unit.isBlank_letter]
    exact m.unit.read?_letter
  rw [read, trim_eq_self m.isBlank_text]
  exact mapError_eq_ok_iff.mpr ((readTrimmed_eq_ok_iff m.cutBefore_text).mpr
    ⟨naturalUpTo?_toDigits hle, hunit, hpos⟩)

end Memory

/-! ### All parsers -/

variable {typeName raw : String} {v : Value}

theorem value_of_readMember {members : List String} (h : readMember typeName members raw = .ok v) :
    v = .text raw := by
  unfold readMember at h
  split at h
  · exact (Except.ok.inj h).symm
  · nomatch h

theorem value_of_readKnown {known : Option (List String)}
    (h : readKnown typeName known raw = .ok v) : v = .text raw := by
  unfold readKnown at h
  split at h
  · nomatch h
  · exact value_of_readMember h
  · exact (Except.ok.inj h).symm

/-- **Parsing comes to rest after one step, and leaves nothing out.** What one of the built-in rules
makes of a text it makes of the canonical text of the value too, whatever is known at the time.
Every integer that is not too small and that 64 bits hold is parsed from its canonical text, and so
is every quantity of memory with a positive amount that 64 bits hold. -/
theorem Parser.parse_render :
    (∀ (p : Parser) (σ : Store) (raw : String) (v : Value), p.isBuiltIn = true →
      p.parse σ raw = .ok v → p.parse σ v.render = .ok v) ∧
    (∀ (min n : Int) (σ : Store), min ≤ n → minInt ≤ n → n ≤ maxInt →
      (Parser.integerAtLeast min).parse σ (Value.integer n).render = .ok (.integer n)) ∧
    ∀ (m : Memory) (σ : Store), 1 ≤ m.amount → m.amount ≤ maxWord →
      Parser.memory.parse σ (Value.memory m).render = .ok (.memory m) := by
  refine ⟨fun p σ raw v hp h => ?again, fun min n σ hmin hlo hhi => ?integer,
    fun m σ hpos hle => ?memory⟩
  case again =>
    -- A text, a member and a known value are their own canonical texts: all there is to show is
    -- that the value is the text. The other three rules forget how their texts were spelled.
    cases p with
    | nonEmpty =>
      obtain ⟨u, hu, rfl⟩ := map_eq_ok_iff.mp h
      exact h
    | integerAtLeast min =>
      obtain ⟨n, hn, rfl⟩ := map_eq_ok_iff.mp h
      obtain ⟨hread, hmin⟩ := readInteger_eq_ok_iff.mp hn
      obtain ⟨-, hlo, hhi⟩ := integerWithin?_eq_some_iff.mp hread
      exact map_eq_ok_iff.mpr ⟨n, readInteger_toString hmin hlo hhi, rfl⟩
    | memory =>
      obtain ⟨m, hm, rfl⟩ := map_eq_ok_iff.mp h
      exact map_eq_ok_iff.mpr ⟨m, Memory.read_text (Memory.inRange_of_read hm), rfl⟩
    | oneOf typeName members =>
      obtain rfl : v = .text raw := value_of_readMember h
      exact h
    | known typeName source =>
      obtain rfl : v = .text raw := value_of_readKnown h
      exact h
    | route domains strict =>
      obtain ⟨r, hr, rfl⟩ := map_eq_ok_iff.mp h
      exact map_eq_ok_iff.mpr ⟨r, Route.read_text hr, rfl⟩
    | custom rule => nomatch hp
  case integer => exact map_eq_ok_iff.mpr ⟨n, readInteger_toString hmin hlo hhi, rfl⟩
  case memory => exact map_eq_ok_iff.mpr ⟨m, Memory.read_text ⟨hpos, hle⟩, rfl⟩

/-- A port with a sign and with zeros in front, a colon in a host and in a path; the least integer,
and the largest quantity of memory. -/
theorem Parser.parse_render_extremes :
    let r : Route := ⟨"web:8.example.com", none, some 80, some "/a:b"⟩
    (Parser.route none false).parse .empty " web:8.example.com:+0080/a:b" = .ok (.route r) ∧
      (Parser.route none false).parse .empty "web:8.example.com:80/a:b" = .ok (.route r) ∧
      (Parser.integerAtLeast minInt).parse .empty "-9223372036854775808" = .ok (.integer minInt) ∧
      Parser.memory.parse .empty "18446744073709551615G" =
        .ok (.memory ⟨maxWord, .gigabytes⟩) := by
  intro r
  obtain ⟨hagain, hinteger, hmemory⟩ := parse_render
  have hread : (Parser.route none false).parse .empty " web:8.example.com:+0080/a:b" =
      .ok (.route r) := by decide
  exact ⟨hread, hagain _ _ _ _ rfl hread,
    hinteger minInt minInt .empty (by decide) (by decide) (by decide),
    hmemory ⟨maxWord, .gigabytes⟩ .empty (by decide) (by decide)⟩

end TypedManifest.Scalar
