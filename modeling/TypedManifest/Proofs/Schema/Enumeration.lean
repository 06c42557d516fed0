import Mathlib.Data.List.Induction
import TypedManifest.Proofs.Check.Parts
import TypedManifest.Proofs.Result
import TypedManifest.Proofs.Schema.Completion
import TypedManifest.Proofs.Table
import TypedManifest.Schema.Definition

/-!
# Building enumerations

An enumeration is built from members and a sequence of deprecations, which may repeat a value, chain
one to another, or lead nowhere. `Enumeration.table` makes a table of them: its rows stand in the
order in which their values were first deprecated, and say what the last deprecation of the value
said (`map_fst_table`, `lookup_table`). The enumeration is built exactly when every row is sound,
and else the first row that is not is reported (`build_eq_error_iff`).

What is built is relied on by all that is asked of an enum type, whose members stand in two places:
in the enumeration and in the rule for its texts. The last section shows that the answers agree.
-/

namespace TypedManifest

namespace Enumeration

/-! ### The table of replacements -/

variable {rows : List (String × String)} {value replacement : String}

theorem map_fst_setReplacement :
    (setReplacement value replacement rows).map Prod.fst =
      if value ∈ rows.map Prod.fst then rows.map Prod.fst else rows.map Prod.fst ++ [value] := by
  induction rows with
  | nil => rfl
  | cons row rows ih =>
    obtain ⟨v, r⟩ := row
    unfold setReplacement
    by_cases h : v = value
    · simp [h]
    · rw [if_neg h, List.map_cons, ih]
      by_cases hm : value ∈ rows.map Prod.fst
      · simp [hm]
      · simp [hm, Ne.symm h]

theorem lookup_setReplacement (x : String) :
    (setReplacement value replacement rows).lookup x =
      if x = value then some replacement else rows.lookup x := by
  induction rows with
  | nil => exact lookup_cons_eq_if ..
  | cons row rows ih =>
    obtain ⟨v, r⟩ := row
    unfold setReplacement
    by_cases h : v = value
    · subst h
      by_cases hx : x = v <;> simp [lookup_cons_eq_if, hx]
    · rw [if_neg h, lookup_cons_eq_if, ih, lookup_cons_eq_if]
      by_cases hx : x = v <;> simp [hx, h]

variable {deprecations : List (String × String)}

theorem table_append_singleton (d : String × String) :
    table (deprecations ++ [d]) = setReplacement d.1 d.2 (table deprecations) := by
  rw [table, List.foldl_append]
  rfl

/-- The rows stand in the order in which their values were first deprecated, one for each value. -/
theorem map_fst_table : (table deprecations).map Prod.fst =
    (deprecations.map Prod.fst).eraseDups := by
  -- The table is made from the left, so the induction takes the last deprecation off.
  induction deprecations using List.reverseRecOn with
  | nil => rfl
  | append_singleton ds d ih =>
    rw [table_append_singleton, map_fst_setReplacement, ih, List.map_append, List.map_singleton,
      eraseDups_append_singleton]
    simp only [List.mem_eraseDups]

/-- A row says what the last deprecation of its value said. -/
theorem lookup_table : (table deprecations).lookup value = deprecations.reverse.lookup value := by
  induction deprecations using List.reverseRecOn with
  | nil => rfl
  | append_singleton ds d ih =>
    rw [table_append_singleton, lookup_setReplacement, ih, List.reverse_append,
      List.reverse_singleton, List.singleton_append, lookup_cons_eq_if]

theorem nodup_table : ((table deprecations).map Prod.fst).Nodup := by
  induction deprecations using List.reverseRecOn with
  | nil => exact List.nodup_nil
  | append_singleton ds d ih =>
    rw [table_append_singleton, map_fst_setReplacement]
    split
    · exact ih
    · next h =>
      rw [List.nodup_append]
      refine ⟨ih, List.nodup_singleton _, fun x hx y hy => ?_⟩
      rintro rfl
      exact h (List.mem_singleton.mp hy ▸ hx)

theorem mem_table_iff : (value, replacement) ∈ table deprecations ↔
    deprecations.reverse.lookup value = some replacement := by
  rw [mem_iff_lookup nodup_table, lookup_table]

/-! ### Sound rows -/

/-- The row of a table is sound: it replaces a member by a member that the table does not
replace. -/
def SoundRow (members : List String) (rows : List (String × String)) (row : String × String) :
    Prop :=
  row.1 ∈ members ∧ row.2 ∈ members ∧ row.2 ∉ rows.map Prod.fst

instance (members : List String) (rows : List (String × String)) (row : String × String) :
    Decidable (SoundRow members rows row) :=
  inferInstanceAs (Decidable (_ ∧ _ ∧ _))

/-- What is reported of a row that is not sound. That the value is no member comes first. -/
def faultOf (typeName : String) (members : List String) (row : String × String) :
    DefinitionError :=
  if row.1 ∈ members then .invalidReplacement typeName row.1 row.2
  else .deprecatedNotMember typeName row.1

variable {typeName : String} {members : List String} {row : String × String}

theorem rowFault?_eq : rowFault? typeName members rows row =
    if SoundRow members rows row then none else some (faultOf typeName members row) := by
  unfold rowFault? SoundRow faultOf
  by_cases h₁ : row.1 ∈ members
  · by_cases h₂ : row.2 ∈ members
    · by_cases h₃ : row.2 ∈ rows.map Prod.fst <;> simp only [h₁, h₂, h₃] <;> simp
    · simp [h₁, h₂]
  · simp [h₁]

theorem rowFault?_eq_none_iff :
    rowFault? typeName members rows row = none ↔ SoundRow members rows row := by
  rw [rowFault?_eq]
  split <;> simp [*]

/-- An enumeration is built exactly when there is a member and every row of the table is sound. -/
theorem build_eq_ok_iff {e : Enumeration} : build typeName members deprecations = .ok e ↔
    members ≠ [] ∧ (∀ row ∈ table deprecations, SoundRow members (table deprecations) row) ∧
      e = ⟨members, table deprecations⟩ := by
  unfold build ofTable
  by_cases hm : members = []
  · simp [hm]
  · rw [if_neg hm]
    have hnone : (table deprecations).findSome?
        (rowFault? typeName members (table deprecations)) = none ↔
        ∀ row ∈ table deprecations, SoundRow members (table deprecations) row := by
      simp only [List.findSome?_eq_none_iff, rowFault?_eq_none_iff]
    cases hf : (table deprecations).findSome?
        (rowFault? typeName members (table deprecations)) with
    | none =>
      constructor
      · rintro ⟨rfl⟩
        exact ⟨hm, hnone.mp hf, rfl⟩
      · rintro ⟨-, -, rfl⟩
        rfl
    | some fault =>
      have hunsound := mt hnone.mpr (by simp [hf])
      exact iff_of_false nofun fun h => hunsound h.2.1

/-- Otherwise it is reported that there is no member, or else what is wrong with the first row that
is not sound. -/
theorem build_eq_error_iff {fault : DefinitionError} :
    build typeName members deprecations = .error fault ↔
      members = [] ∧ fault = .emptyEnum typeName ∨
      members ≠ [] ∧ ∃ before row after, table deprecations = before ++ row :: after ∧
        (∀ row' ∈ before, SoundRow members (table deprecations) row') ∧
        ¬ SoundRow members (table deprecations) row ∧ fault = faultOf typeName members row := by
  unfold build ofTable
  by_cases hm : members = []
  · simp [hm, eq_comm]
  · rw [if_neg hm]
    have hsome : (table deprecations).findSome?
        (rowFault? typeName members (table deprecations)) = some fault ↔
        ∃ before row after, table deprecations = before ++ row :: after ∧
          (∀ row' ∈ before, SoundRow members (table deprecations) row') ∧
          ¬ SoundRow members (table deprecations) row ∧ fault = faultOf typeName members row := by
      rw [List.findSome?_eq_some_iff]
      constructor
      · rintro ⟨before, row, after, hrows, hfault, hbefore⟩
        rw [rowFault?_eq] at hfault
        split at hfault
        · nomatch hfault
        · next hunsound =>
          exact ⟨before, row, after, hrows, fun row' h => rowFault?_eq_none_iff.mp (hbefore row' h),
            hunsound, (Option.some.inj hfault).symm⟩
      · rintro ⟨before, row, after, hrows, hbefore, hunsound, rfl⟩
        refine ⟨before, row, after, hrows, ?_, fun row' h =>
          rowFault?_eq_none_iff.mpr (hbefore row' h)⟩
        rw [rowFault?_eq, if_neg hunsound]
    simp only [hm, ne_eq, not_false_eq_true, false_and, true_and, false_or, ← hsome]
    cases (table deprecations).findSome?
        (rowFault? typeName members (table deprecations)) <;> simp

/-! ### Enumerations that have been built -/

/-- The enumeration has a member, and every row of its table is sound. -/
structure Sound (e : Enumeration) : Prop where
  /-- There is a member. -/
  members_ne_nil : e.members ≠ []
  /-- Every row is sound. -/
  rows : ∀ row ∈ e.replacements, SoundRow e.members e.replacements row

variable {e : Enumeration}

theorem sound_of_build (h : build typeName members deprecations = .ok e) : e.Sound := by
  obtain ⟨hm, hrows, rfl⟩ := build_eq_ok_iff.mp h
  exact ⟨hm, hrows⟩

theorem replacement?_isSome_iff :
    (e.replacement? value).isSome = true ↔ value ∈ e.replacements.map Prod.fst :=
  lookup_isSome_iff_mem

theorem replacement?_eq_none_iff :
    e.replacement? value = none ↔ value ∉ e.replacements.map Prod.fst := by
  rw [← replacement?_isSome_iff, Bool.not_eq_true, Option.isSome_eq_false_iff,
    Option.isNone_iff_eq_none]

theorem mem_of_replacement?_eq_some (h : e.replacement? value = some replacement) :
    (value, replacement) ∈ e.replacements := by
  obtain ⟨before, after, hrows, -⟩ := List.lookup_eq_some_iff.mp h
  rw [hrows]
  exact List.mem_append_right _ List.mem_cons_self

/-- Only members are deprecated. -/
theorem Sound.mem_of_replaced (he : e.Sound) (h : value ∈ e.replacements.map Prod.fst) :
    value ∈ e.members := by
  obtain ⟨row, hrow, rfl⟩ := List.mem_map.mp h
  exact (he.rows row hrow).1

theorem mem_live_iff : value ∈ e.live ↔ value ∈ e.members ∧ e.replacement? value = none := by
  rw [live, List.mem_filter, Option.isNone_iff_eq_none]

/-- What is suggested instead of a deprecated value is a member that is not deprecated. -/
theorem Sound.replacement_mem_live (he : e.Sound)
    (h : e.replacement? value = some replacement) : replacement ∈ e.live := by
  obtain ⟨-, hmem, hlive⟩ := he.rows _ (mem_of_replacement?_eq_some h)
  exact mem_live_iff.mpr ⟨hmem, replacement?_eq_none_iff.mpr hlive⟩

theorem live_eq : e.live = e.members.filter (· ∉ e.replacements.map Prod.fst) := by
  refine List.filter_congr fun m _ => ?_
  rw [Bool.eq_iff_iff, Option.isNone_iff_eq_none, replacement?_eq_none_iff, decide_eq_true_iff]

/-- Deprecation never takes the last value away. -/
theorem Sound.live_ne_nil (he : e.Sound) : e.live ≠ [] := by
  cases hrows : e.replacements with
  | nil =>
    rw [live_eq, hrows]
    simpa [List.filter_eq_nil_iff, List.eq_nil_iff_forall_not_mem] using he.members_ne_nil
  | cons row rows =>
    -- Some member is deprecated, and then its replacement is not.
    obtain ⟨-, hmem, hlive⟩ := he.rows row (by rw [hrows]; exact List.mem_cons_self)
    refine List.ne_nil_of_mem (a := row.2) ?_
    rw [live_eq, List.mem_filter]
    exact ⟨hmem, decide_eq_true hlive⟩

end Enumeration

/-! ### Enum types -/

theorem Hint.firstsExcept_eq {seen values : List String} :
    firstsExcept seen (values.map ({ value := · })) =
      ((values.filter (· ∉ seen)).eraseDups).map ({ value := · }) := by
  induction values generalizing seen with
  | nil => rfl
  | cons v vs ih =>
    rw [List.map_cons, firstsExcept, ih, ih]
    by_cases h : v ∈ seen
    · simp [h]
    · have hfilter : vs.filter (· ∉ v :: seen) = (vs.filter (· ∉ seen)).filter (!· == v) := by
        rw [List.filter_filter]
        exact List.filter_congr fun x _ => by by_cases hx : x = v <;> simp [hx]
      rw [if_neg (by simpa using h), hfilter, List.filter_cons_of_pos (by simpa using h),
        List.eraseDups_cons, List.map_cons]

namespace SchemaType

variable {σ : Store} {n : Nat} {name : String} {e : Enumeration}

/-- The rule for the texts of an enum type accepts the members of its enumeration. -/
theorem checkScalar_ofEnumeration (raw : String) :
    (SchemaType.atomic n (.ofEnumeration name e)).checkScalar σ raw =
      if raw ∈ e.members then .ok ⟨.text raw, (e.replacement? raw).map (⟨raw, ·⟩)⟩
      else .error ⟨raw, .unknownValue name e.members⟩ := by
  by_cases h : raw ∈ e.members <;> simp [Atomic.ofEnumeration, checkScalar, Scalar.Parser.parse,
    Scalar.readMember, deprecation?, replacement?, enumeration?, h, Except.map]

theorem accepts_ofEnumeration_iff {raw : String} :
    (SchemaType.atomic n (.ofEnumeration name e)).Accepts σ raw ↔ raw ∈ e.members := by
  unfold Accepts
  rw [checkScalar_ofEnumeration]
  split <;> simp [*]

theorem checkScalar_ofEnumeration_deprecated_iff {raw : String} {value : Scalar.Value}
    {d : Deprecation} :
    (SchemaType.atomic n (.ofEnumeration name e)).checkScalar σ raw = .ok ⟨value, some d⟩ ↔
      raw ∈ e.members ∧ value = .text raw ∧ d.value = raw ∧
        e.replacement? raw = some d.replacement := by
  obtain ⟨v, r⟩ := d
  rw [checkScalar_ofEnumeration]
  by_cases h : raw ∈ e.members
  · cases e.replacement? raw <;> simp [h, eq_comm]
  · simp [h]

theorem hintsFor_ofEnumeration : hintsFor σ (.atomic n (.ofEnumeration name e)) =
    ((e.live.eraseDups.map ({ value := · }), []), σ) := by
  have hfirsts : Hint.firsts (e.live.map ({ value := · })) =
      e.live.eraseDups.map ({ value := · }) := by
    rw [Hint.firsts, Hint.firstsExcept_eq, List.filter_eq_self.mpr (by simp)]
  simp [hintsFor, Atomic.ofEnumeration, ownHints, Store.hintsOfAll, hfirsts]

/-- The deprecated texts are those that have a row. -/
theorem exists_deprecation_ofEnumeration_iff (he : e.Sound) {raw : String} :
    (∃ value d, (SchemaType.atomic n (.ofEnumeration name e)).checkScalar σ raw =
      .ok ⟨value, some d⟩) ↔ raw ∈ e.replacements.map Prod.fst := by
  simp only [checkScalar_ofEnumeration_deprecated_iff]
  constructor
  · rintro ⟨value, d, -, -, -, hreplacement⟩
    exact List.mem_map.mpr ⟨_, Enumeration.mem_of_replacement?_eq_some hreplacement, rfl⟩
  · intro hrow
    obtain ⟨replacement, hreplacement⟩ :=
      Option.isSome_iff_exists.mp (Enumeration.replacement?_isSome_iff.mpr hrow)
    exact ⟨.text raw, ⟨raw, replacement⟩, he.mem_of_replaced hrow, rfl, rfl, hreplacement⟩

/-- What is suggested is what the row says, and it is not deprecated itself. -/
theorem checkScalar_replacement_ofEnumeration (he : e.Sound) {raw : String} {value : Scalar.Value}
    {d : Deprecation}
    (hd : (SchemaType.atomic n (.ofEnumeration name e)).checkScalar σ raw = .ok ⟨value, some d⟩) :
    (raw, d.replacement) ∈ e.replacements ∧
      (SchemaType.atomic n (.ofEnumeration name e)).checkScalar σ d.replacement =
        .ok ⟨.text d.replacement, none⟩ := by
  obtain ⟨-, -, -, hreplacement⟩ := checkScalar_ofEnumeration_deprecated_iff.mp hd
  obtain ⟨hmem, hlive⟩ := Enumeration.mem_live_iff.mp (he.replacement_mem_live hreplacement)
  refine ⟨Enumeration.mem_of_replacement?_eq_some hreplacement, ?_⟩
  rw [checkScalar_ofEnumeration, if_pos hmem, hlive]
  rfl

end SchemaType

namespace Atomic

open Enumeration

/-- **What enum types are built, and what they do.** Let the rows stand for the deprecations: in the
order in which values were first deprecated, with what was last said of each. The type is built
exactly when there is a member and every row is sound; otherwise it is reported that there is none,
or what is wrong with the first row that is not sound. A type that is built accepts its members and
no other text; those that have a row are deprecated, in favour of a member that is not; and it
offers the members that are not deprecated, each of them once and at least one. -/
theorem enum_law (name : String) (members : List String) (deprecations : List (String × String)) :
    let rows := table deprecations
    (rows.map Prod.fst = (deprecations.map Prod.fst).eraseDups ∧ ∀ value replacement,
      (value, replacement) ∈ rows ↔ deprecations.reverse.lookup value = some replacement) ∧
    ((∃ a, Atomic.enum name members deprecations = .ok a) ↔
      members ≠ [] ∧ ∀ row ∈ rows, SoundRow members rows row) ∧
    (∀ fault, Atomic.enum name members deprecations = .error fault ↔
      members = [] ∧ fault = .emptyEnum name ∨
      members ≠ [] ∧ ∃ before row after, rows = before ++ row :: after ∧
        (∀ row' ∈ before, SoundRow members rows row') ∧ ¬ SoundRow members rows row ∧
        fault = if row.1 ∈ members then .invalidReplacement name row.1 row.2
          else .deprecatedNotMember name row.1) ∧
    ∀ a, Atomic.enum name members deprecations = .ok a → ∀ (n : Nat) (σ : Store),
      let t := SchemaType.atomic n a
      (∀ raw, (t.Accepts σ raw ↔ raw ∈ members) ∧ (t.isMember raw = true ↔ raw ∈ members)) ∧
      (∀ raw, (∃ value d, t.checkScalar σ raw = .ok ⟨value, some d⟩) ↔
        raw ∈ rows.map Prod.fst) ∧
      (∀ raw value d, t.checkScalar σ raw = .ok ⟨value, some d⟩ → (raw, d.replacement) ∈ rows ∧
        t.checkScalar σ d.replacement = .ok ⟨.text d.replacement, none⟩) ∧
      t.hintsFor σ = (((members.filter (· ∉ rows.map Prod.fst)).eraseDups.map
        ({ value := · }), []), σ) ∧
      ((t.hintsFor σ).1.1.map Hint.value).Nodup ∧ (t.hintsFor σ).1.1 ≠ [] := by
  intro rows
  refine ⟨⟨map_fst_table, fun value replacement => mem_table_iff⟩, ?built, fun fault => ?refused,
    fun a ha n σ => ?type⟩
  case built =>
    constructor
    · rintro ⟨a, ha⟩
      obtain ⟨e, he, rfl⟩ := map_eq_ok_iff.mp ha
      obtain ⟨hmembers, hrows, -⟩ := build_eq_ok_iff.mp he
      exact ⟨hmembers, hrows⟩
    · rintro ⟨hmembers, hrows⟩
      exact ⟨_, map_eq_ok_iff.mpr ⟨_, build_eq_ok_iff.mpr ⟨hmembers, hrows, rfl⟩, rfl⟩⟩
  case refused => exact map_eq_error_iff.trans build_eq_error_iff
  case type =>
    obtain ⟨e, he, rfl⟩ := map_eq_ok_iff.mp ha
    have hsound : e.Sound := sound_of_build he
    obtain ⟨-, -, rfl⟩ := build_eq_ok_iff.mp he
    intro t
    have hhints : t.hintsFor σ = _ := SchemaType.hintsFor_ofEnumeration
    refine ⟨fun raw => ⟨SchemaType.accepts_ofEnumeration_iff, List.contains_iff_mem⟩,
      fun raw => SchemaType.exists_deprecation_ofEnumeration_iff hsound,
      fun raw value d hd => SchemaType.checkScalar_replacement_ofEnumeration hsound hd,
      ?hints, Hint.nodup_values_firsts, ?nonempty⟩
    case hints => rw [hhints, live_eq]
    case nonempty =>
      rw [hhints]
      obtain ⟨m, hm⟩ := List.exists_mem_of_ne_nil _ hsound.live_ne_nil
      exact List.ne_nil_of_mem (List.mem_map_of_mem (List.mem_eraseDups.mpr hm))

/-- A value is deprecated twice, and the last word counts. Two members that are to replace each
other are refused. -/
theorem enum_law_deprecated_twice :
    let members := ["old", "older", "new", "newer"]
    let deprecations := [("old", "newer"), ("older", "new"), ("old", "new")]
    let a : Atomic := .ofEnumeration "Mode" ⟨members, [("old", "new"), ("older", "new")]⟩
    let t := SchemaType.atomic 0 a
    Atomic.enum "Mode" members deprecations = .ok a ∧
      t.checkScalar .empty "old" = .ok ⟨.text "old", some ⟨"old", "new"⟩⟩ ∧
      t.checkScalar .empty "new" = .ok ⟨.text "new", none⟩ ∧ ¬ t.Accepts .empty "newest" ∧
      (t.hintsFor .empty).1.1 = [{ value := "new" }, { value := "newer" }] ∧
      Atomic.enum "Mode" ["old", "new"] [("old", "new"), ("new", "old")] =
        .error (.invalidReplacement "Mode" "old" "new") := by
  intro members deprecations a t
  have hbuilt : Atomic.enum "Mode" members deprecations = .ok a := rfl
  have hold : t.checkScalar .empty "old" = .ok ⟨.text "old", some ⟨"old", "new"⟩⟩ := by decide
  obtain ⟨-, -, -, htype⟩ := enum_law "Mode" members deprecations
  obtain ⟨haccepts, -, hreplacement, hhints, -⟩ := htype a hbuilt 0 .empty
  obtain ⟨-, -, hrefused, -⟩ := enum_law "Mode" ["old", "new"] [("old", "new"), ("new", "old")]
  refine ⟨hbuilt, hold, (hreplacement _ _ _ hold).2, fun h => ?_, ?_, (hrefused _).mpr ?_⟩
  · exact absurd ((haccepts "newest").1.mp h) (by decide)
  · exact congrArg (·.1.1) hhints
  · exact .inr ⟨by decide, [], ("old", "new"), [("new", "old")], rfl, nofun, by decide, rfl⟩

end Atomic

end TypedManifest
