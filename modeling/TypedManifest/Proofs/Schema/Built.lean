import TypedManifest.Proofs.Schema.Enumeration

/-!
# Enum types with hints added

An enum type is built from its members and deprecations; afterwards hints and sources may be added
to it, any number of times. As long as its parser is not replaced it accepts its members, and what
it suggests instead of a deprecated one is a text that it has nothing against (`Built`).

What it offers is another matter. Of its members it offers those that are not deprecated, but the
hints that were added are offered as they are, and so is what the sources bring. A deprecated value
is offered exactly when it is among these (`mem_offered_and_deprecated_iff`).
-/

namespace TypedManifest

namespace Atomic

/-- An enum type as it is built, perhaps with hints and sources added afterwards. -/
inductive Built : Atomic → Prop where
  /-- As it is built. -/
  | enum {name : String} {members : List String} {deprecations : List (String × String)}
      {a : Atomic} : Atomic.enum name members deprecations = .ok a → Built a
  /-- With hints and sources added. -/
  | refine {a : Atomic} (hints : List Hint) (sources : List Source) :
      Built a → Built (a.refine hints sources none)

/-- The enumeration is sound, and the rule for the texts of the type accepts its members. -/
theorem Built.exists_enumeration {a : Atomic} (h : a.Built) :
    ∃ e : Enumeration, e.Sound ∧ a.enumeration = some e ∧
      a.parser = some (.oneOf a.name e.members) := by
  induction h with
  | enum h =>
    obtain ⟨e, he, rfl⟩ := map_eq_ok_iff.mp h
    exact ⟨e, Enumeration.sound_of_build he, rfl, rfl⟩
  | refine hints sources _ ih =>
    obtain ⟨e, hsound, henumeration, hparser⟩ := ih
    exact ⟨e, hsound, henumeration, hparser⟩

end Atomic

namespace SchemaType

open Check

variable {σ : Store} {n : Nat} {a : Atomic} {text : String} {d : Deprecation}

theorem deprecation?_eq_some_iff {e : Enumeration} (he : a.enumeration = some e) :
    (SchemaType.atomic n a).deprecation? text = some d ↔
      d.value = text ∧ e.replacement? text = some d.replacement := by
  obtain ⟨value, replacement⟩ := d
  simp only [deprecation?, replacement?, enumeration?, he, Option.bind_some, Option.map_eq_some_iff,
    Deprecation.mk.injEq]
  constructor
  · rintro ⟨r, hr, rfl, rfl⟩
    exact ⟨rfl, hr⟩
  · rintro ⟨rfl, hr⟩
    exact ⟨replacement, hr, rfl, rfl⟩

/-- A member is accepted. -/
theorem outcome_of_mem {e : Enumeration} {name : String}
    (hp : a.parser = some (.oneOf name e.members)) (hm : text ∈ e.members) :
    a.outcome σ text = .ok () := by
  rw [Atomic.outcome, hp]
  simp [Scalar.Parser.parse, Scalar.readMember, hm, Except.map]

/-- A deprecated text is accepted with a warning. -/
theorem checkText_of_deprecated (h : a.Built)
    (hd : (SchemaType.atomic n a).deprecation? text = some d) :
    (SchemaType.atomic n a).checkText σ text = [.here (.deprecated d)] := by
  obtain ⟨e, hsound, he, hp⟩ := h.exists_enumeration
  have hreplacement := ((deprecation?_eq_some_iff he).mp hd).2
  have hmem : text ∈ e.members :=
    hsound.mem_of_replaced (Enumeration.replacement?_isSome_iff.mp (by rw [hreplacement]; rfl))
  rw [checkText_atomic, outcome_of_mem hp hmem, hd]
  rfl

/-- What is offered as a member is not deprecated. -/
theorem deprecation?_of_mem_live {e : Enumeration} (he : a.enumeration = some e)
    (hm : text ∈ e.live) : (SchemaType.atomic n a).deprecation? text = none := by
  rw [deprecation?, replacement?, enumeration?, he, Option.bind_some,
    (Enumeration.mem_live_iff.mp hm).2]
  rfl

/-- What is suggested instead of a deprecated text is not deprecated. -/
theorem deprecation?_replacement (h : a.Built)
    (hd : (SchemaType.atomic n a).deprecation? text = some d) :
    (SchemaType.atomic n a).deprecation? d.replacement = none := by
  obtain ⟨e, hsound, he, -⟩ := h.exists_enumeration
  exact deprecation?_of_mem_live he
    (hsound.replacement_mem_live ((deprecation?_eq_some_iff he).mp hd).2)

/-- There is nothing against what is suggested instead. -/
theorem checkText_replacement (h : a.Built)
    (hd : (SchemaType.atomic n a).deprecation? text = some d) :
    (SchemaType.atomic n a).checkText σ d.replacement = [] := by
  obtain ⟨e, hsound, he, hp⟩ := h.exists_enumeration
  have hlive := hsound.replacement_mem_live ((deprecation?_eq_some_iff he).mp hd).2
  rw [checkText_atomic, outcome_of_mem hp (Enumeration.mem_live_iff.mp hlive).1,
    deprecation?_replacement h hd]
  rfl

/-! ### Deprecated values among the offers -/

/-- **A deprecated value is offered exactly when it was added as a hint or a source brings it.** The
members of the enumeration are offered without those that are deprecated; what is added to them is
not looked at again. -/
theorem mem_offered_and_deprecated_iff (σ : Store) (n : Nat) (a : Atomic) (value : String) :
    let t := SchemaType.atomic n a
    value ∈ (t.hintsFor σ).1.1.map Hint.value ∧ t.deprecation? value ≠ none ↔
      value ∈ (a.hints ++ (σ.hintsOfAll a.sources).1.1).map Hint.value ∧
        t.deprecation? value ≠ none := by
  intro t
  apply and_congr_left
  intro hdeprecated
  have hoffered : (t.hintsFor σ).1.1 = Hint.firsts (ownHints a ++ (σ.hintsOfAll a.sources).1.1) :=
    rfl
  have hmembers : value ∉ (a.enumeration.map Enumeration.live).getD [] := by
    intro hmem
    cases he : a.enumeration with
    | none =>
      rw [he] at hmem
      nomatch hmem
    | some e =>
      rw [he] at hmem
      exact hdeprecated (deprecation?_of_mem_live he hmem)
  rw [hoffered, Hint.mem_values_firsts, ownHints, List.append_assoc, List.map_append,
    List.mem_append, List.map_map, or_iff_right]
  simpa using hmembers

/-- A deprecated value that is added as a hint is offered. -/
theorem offered_although_deprecated :
    ¬ ∀ a : Atomic, a.Built → ∀ (σ : Store) (n : Nat),
      ∀ h ∈ ((SchemaType.atomic n a).hintsFor σ).1.1,
        (SchemaType.atomic n a).deprecation? h.value = none := by
  intro h
  let mode : Atomic := .ofEnumeration "Mode" ⟨["old", "new"], [("old", "new")]⟩
  have hbuild : Atomic.enum "Mode" ["old", "new"] [("old", "new")] = .ok mode := rfl
  have hmem : ({ value := "old" } : Hint) ∈
      ((SchemaType.atomic 0 (mode.refine [{ value := "old" }] [] none)).hintsFor .empty).1.1 := by
    decide
  have hlive := h _ (Atomic.Built.enum hbuild |>.refine [{ value := "old" }] []) .empty 0 _ hmem
  nomatch hlive

end SchemaType

end TypedManifest
