import Mathlib.Algebra.Group.Nat.Defs
import TypedManifest.Check.Stream
import TypedManifest.Proofs.Check.Parts

/-!
# Conformance

A check says what is wrong with a value, and where. This module says what it is for a value to be
right: `SchemaType.Conforms` relates types to the values that suit them, one rule for each form of
type, without a place, a message or an order in which anything is looked at. The two agree. A check
finds no error exactly when the value conforms (`errorFree_check_iff`), and a stream of documents
is without an error exactly when its length is allowed and every document conforms to the type of
documents.

A check may still find something in a value that conforms: a deprecated scalar and an unknown
property are warnings.
-/

namespace TypedManifest

open Check Yaml

/-! ### Findings without an error -/

namespace Check

/-- None of the findings is an error. -/
def ErrorFree (found : List Diagnostic) : Prop := ∀ d ∈ found, d.severity ≠ .error

@[simp] theorem errorFree_nil : ErrorFree [] := nofun

@[simp] theorem errorFree_append {xs ys : List Diagnostic} :
    ErrorFree (xs ++ ys) ↔ ErrorFree xs ∧ ErrorFree ys := by
  simp only [ErrorFree, List.mem_append, or_imp, forall_and]

theorem errorFree_here {f : Finding} : ErrorFree [.here f] ↔ f.severity ≠ .error := by
  simp [ErrorFree, Diagnostic.here, Diagnostic.severity]

/-- Where a finding is does not bear on how grave it is. -/
@[simp] theorem errorFree_under {step : Step} {found : List Diagnostic} :
    ErrorFree (found.map (.under step)) ↔ ErrorFree found := by
  simp [ErrorFree, Diagnostic.under, Diagnostic.severity]

theorem errorFree_flatMap {α : Type} {f : α → List Diagnostic} {xs : List α} :
    ErrorFree (xs.flatMap f) ↔ ∀ x ∈ xs, ErrorFree (f x) := by
  induction xs with
  | nil => simp
  | cons x xs ih => rw [List.flatMap_cons, errorFree_append, ih, List.forall_mem_cons]

end Check

/-! ### Numbers of documents -/

theorem DocumentRange.check_eq_ok_iff {r : DocumentRange} {found : Nat} :
    r.check found = .ok () ↔ found ≤ 2 ^ 63 - 1 ∧
      (∀ lower ∈ r.lower, lower ≤ found) ∧ ∀ upper ∈ r.upper, found ≤ upper := by
  have hall : r.allows found = true ↔ found ≤ 2 ^ 63 - 1 ∧
      (∀ lower ∈ r.lower, lower ≤ found) ∧ ∀ upper ∈ r.upper, found ≤ upper := by
    simp only [allows, contains, Bool.and_eq_true, Option.all_eq_true, decide_eq_true_eq,
      Option.mem_def]
    exact Iff.rfl
  rw [← hall, check]
  split
  · simp_all
  · simp_all

namespace SchemaType

/-! ### Types and the values that suit them -/

/-- The property is the one of that name. Names differ in a bean that has been built, and then it is
the property with the name (`isNamed_iff`); where several have it, it is the first of them. -/
def IsNamed (ps : List Property) (key : String) (p : Property) : Prop :=
  p.name = key ∧ ∃ before after, ps = before ++ p :: after ∧ ∀ q ∈ before, q.name ≠ key

/-- The value conforms to the type. -/
inductive Conforms (σ : Store) : SchemaType → Value → Prop where
  /-- Null conforms to every type. -/
  | null {t : SchemaType} {v : Value} : v.isNull = true → Conforms σ t v
  /-- A scalar conforms to an atomic type that accepts its text. -/
  | atomic {n : Nat} {a : Atomic} {v : Value} {text : String} :
      v.scalarText? = some text → (SchemaType.atomic n a).Accepts σ text →
      Conforms σ (.atomic n a) v
  /-- A mapping conforms to a bean when its keys are texts, when they name all that is required, and
  when under the name of a property stands a value that conforms to the type of the property, and is
  not null if the property is required. -/
  | bean {n : Nat} {name : String} {ps : List Property} {entries : List (Value × Value)} :
      (∀ e ∈ entries, e.1.string? ≠ none) →
      (∀ p ∈ ps, p.required = true → .string p.name ∈ entries.map Prod.fst) →
      (∀ e ∈ entries, ∀ key p, e.1.string? = some key → IsNamed ps key p →
        p.required = true → e.2.isNull = false) →
      (∀ e ∈ entries, ∀ key p, e.1.string? = some key → IsNamed ps key p →
        Conforms σ p.type e.2) →
      Conforms σ (.bean n name ps) (.mapping entries)
  /-- A sequence conforms when its items do. -/
  | sequence {n : Nat} {element : SchemaType} {items : List Value} :
      (∀ v ∈ items, Conforms σ element v) → Conforms σ (.sequence n element) (.sequence items)
  /-- A mapping conforms to a map when its keys conform to the type of keys, and the values under
  them to the type of values. -/
  | map {n : Nat} {key value : SchemaType} {entries : List (Value × Value)} :
      (∀ e ∈ entries, Conforms σ key e.1) → (∀ e ∈ entries, Conforms σ value e.2) →
      Conforms σ (.map n key value) (.mapping entries)

/-- An entry suits a bean: its key is a text, and its value suits the property of that name, if
there is one. -/
def Suits (σ : Store) (bean : SchemaType) (e : Value × Value) : Prop :=
  ∃ key, e.1.string? = some key ∧ ∀ p, IsNamed bean.properties key p →
    (p.required = true → e.2.isNull = false) ∧ Conforms σ p.type e.2

variable {σ : Store} {n : Nat} {t : SchemaType} {v : Value} {ps : List Property} {key : String}
  {p : Property}

theorem isNamed_iff (hn : (ps.map Property.name).Nodup) :
    IsNamed ps key p ↔ p ∈ ps ∧ p.name = key := by
  constructor
  · rintro ⟨hname, before, after, rfl, -⟩
    exact ⟨List.mem_append_right before List.mem_cons_self, hname⟩
  · rintro ⟨hp, rfl⟩
    obtain ⟨before, after, rfl⟩ := List.append_of_mem hp
    refine ⟨rfl, before, after, rfl, fun q hq he => ?_⟩
    rw [List.map_append, List.nodup_append] at hn
    exact hn.2.2 q.name (List.mem_map_of_mem hq) p.name List.mem_cons_self he

/-- A check looks for the property of a name in the list of all. -/
theorem property?_eq_some_iff : t.property? key = some p ↔ IsNamed t.properties key p := by
  simp [property?, List.find?_eq_some_iff_append, IsNamed]

theorem conforms_atomic_iff {a : Atomic} :
    Conforms σ (.atomic n a) v ↔ v.isNull = true ∨
      ∃ text, v.scalarText? = some text ∧ (SchemaType.atomic n a).Accepts σ text := by
  constructor
  · rintro (h | ⟨ht, ha⟩)
    · exact .inl h
    · exact .inr ⟨_, ht, ha⟩
  · rintro (h | ⟨text, ht, ha⟩)
    · exact .null h
    · exact .atomic ht ha

theorem conforms_bean_iff {name : String} :
    Conforms σ (.bean n name ps) v ↔ v.isNull = true ∨ ∃ entries, v = .mapping entries ∧
      (∀ e ∈ entries, Suits σ (.bean n name ps) e) ∧
        ∀ p ∈ ps, p.required = true → .string p.name ∈ entries.map Prod.fst := by
  constructor
  · rintro (h | _ | ⟨hk, hr, hn, hc⟩)
    · exact .inl h
    · refine .inr ⟨_, rfl, fun e he => ?_, hr⟩
      obtain ⟨key, hkey⟩ := Option.ne_none_iff_exists'.mp (hk e he)
      exact ⟨key, hkey, fun p hp => ⟨hn e he key p hkey hp, hc e he key p hkey hp⟩⟩
  · rintro (h | ⟨entries, rfl, hs, hr⟩)
    · exact .null h
    refine .bean (fun e he => ?_) hr (fun e he key p hkey hp => ?_) fun e he key p hkey hp => ?_
    all_goals obtain ⟨key', hkey', hs⟩ := hs e he
    · simp [hkey']
    · obtain rfl : key' = key := by simpa [hkey'] using hkey
      exact (hs p hp).1
    · obtain rfl : key' = key := by simpa [hkey'] using hkey
      exact (hs p hp).2

theorem conforms_sequence_iff {element : SchemaType} :
    Conforms σ (.sequence n element) v ↔
      v.isNull = true ∨ ∃ items, v = .sequence items ∧ ∀ w ∈ items, Conforms σ element w := by
  constructor
  · rintro (h | _ | _ | h)
    · exact .inl h
    · exact .inr ⟨_, rfl, h⟩
  · rintro (h | ⟨items, rfl, h⟩)
    · exact .null h
    · exact .sequence h

theorem conforms_map_iff {key value : SchemaType} :
    Conforms σ (.map n key value) v ↔ v.isNull = true ∨ ∃ entries, v = .mapping entries ∧
      ∀ e ∈ entries, Conforms σ key e.1 ∧ Conforms σ value e.2 := by
  constructor
  · rintro (h | _ | _ | _ | ⟨hk, hv⟩)
    · exact .inl h
    · exact .inr ⟨_, rfl, fun e he => ⟨hk e he, hv e he⟩⟩
  · rintro (h | ⟨entries, rfl, h⟩)
    · exact .null h
    · exact .map (fun e he => (h e he).1) fun e he => (h e he).2

/-! ### What the parts of a check find -/

theorem errorFree_checkText_iff {text : String} :
    ErrorFree (t.checkText σ text) ↔ t.Accepts σ text := by
  unfold checkText Accepts
  cases t.checkScalar σ text with
  | error e => simp [errorFree_here, Finding.severity]
  | ok accepted =>
    obtain ⟨value, _ | d⟩ := accepted
    · simp
    · simp [errorFree_here, Finding.severity]

theorem not_errorFree_wrongShape : ¬ ErrorFree (t.wrongShape v) := by
  simp [wrongShape, errorFree_here, Finding.severity]

theorem errorFree_checkPresence_iff {bean : SchemaType} {entries : List (Value × Value)} :
    ErrorFree (bean.checkPresence entries) ↔
      ∀ p ∈ bean.properties, p.required = true → .string p.name ∈ entries.map Prod.fst := by
  have hkeys : (∀ p ∈ bean.properties, p.required = true → .string p.name ∈ entries.map Prod.fst) ↔
      ∀ p ∈ bean.properties, p.required = true → Value.hasKey p.name entries = true := by
    simp only [Value.hasKey_eq_true_iff]
  rw [hkeys]
  simp only [checkPresence, requiredProperties, ErrorFree, List.mem_map, List.mem_filter,
    Bool.not_eq_true']
  constructor
  · intro h p hp hr
    cases hk : Value.hasKey p.name entries with
    | true => rfl
    | false => exact absurd rfl (h _ ⟨p, ⟨⟨hp, hr⟩, hk⟩, rfl⟩)
  · rintro h d ⟨p, ⟨⟨hp, hr⟩, hk⟩, rfl⟩
    simp [h p hp hr] at hk

theorem errorFree_checkProperty_iff {bean : SchemaType} {e : Value × Value}
    (ih : ∀ p ∈ bean.properties, ErrorFree (p.type.check σ e.2) ↔ Conforms σ p.type e.2) :
    ErrorFree (bean.checkProperty σ e) ↔ Suits σ bean e := by
  unfold checkProperty Suits
  cases e.1.string? with
  | none => simp [errorFree_here, Finding.severity]
  | some name =>
    rw [errorFree_under]
    simp only [← property?_eq_some_iff]
    cases hp : bean.property? name with
    | none => simp [errorFree_here, Finding.severity, hp]
    | some p =>
      have ih := ih p (List.mem_of_find?_eq_some hp)
      by_cases hn : p.required = true ∧ e.2.isNull = true
      · simp [errorFree_here, Finding.severity, hp, hn]
      · have hn' : p.required = true → e.2.isNull = false := by simpa using hn
        simp only [hp, Option.some.injEq, exists_eq_left', forall_eq', Bool.and_eq_true, hn,
          if_false, ih]
        exact ⟨fun h => ⟨hn', h⟩, And.right⟩

/-! ### Soundness and completeness -/

/-- A value without the form that a type wants does not conform to it, unless it is null. -/
theorem not_conforms_of_not_hasForm (hn : v.isNull = false) (hf : t.hasForm v = false) :
    ¬ Conforms σ t v := by
  rintro (h | ⟨ht, -⟩ | _ | _ | _)
  · simp [hn] at h
  · simp [hasForm, ht] at hf
  all_goals simp [hasForm] at hf

/-- **A check finds no error exactly when the value conforms.** -/
theorem errorFree_check_iff : ErrorFree (t.check σ v) ↔ Conforms σ t v := by
  induction t, v using checkInduction with
  | null t v h =>
    rw [check_of_isNull h]
    exact ⟨fun _ => .null h, fun _ => errorFree_nil⟩
  | misfit t v hn hf =>
    rw [check_of_not_hasForm hn hf]
    exact ⟨fun h => absurd h not_errorFree_wrongShape,
      fun h => absurd h (not_conforms_of_not_hasForm hn hf)⟩
  | atomic n a v text h =>
    rw [check_atomic h, errorFree_checkText_iff, conforms_atomic_iff,
      Value.isNull_of_scalarText? h, h]
    simp
  | bean n name ps entries ih =>
    rw [check_bean, errorFree_append, errorFree_checkPresence_iff, errorFree_flatMap,
      conforms_bean_iff]
    simp only [Value.isNull, Value.mapping.injEq, exists_eq_left', Bool.false_eq_true, false_or]
    exact and_congr_left fun _ => forall₂_congr fun e he => errorFree_checkProperty_iff (ih e he)
  | sequence n element items ih =>
    rw [check_sequence, errorFree_flatMap, conforms_sequence_iff]
    simp only [Value.isNull, Value.sequence.injEq, exists_eq_left', Bool.false_eq_true, false_or,
      errorFree_under]
    rw [← List.forall_mem_map (f := Prod.fst) (P := fun v => ErrorFree (element.check σ v)),
      List.zipIdx_map_fst]
    exact forall₂_congr ih
  | map n key value entries ih =>
    rw [check_map, errorFree_flatMap, conforms_map_iff]
    simp only [Value.isNull, Value.mapping.injEq, exists_eq_left', Bool.false_eq_true, false_or]
    refine forall₂_congr fun e he => ?_
    rw [checkEntry, errorFree_under, errorFree_append, (ih e he).1, (ih e he).2]

end SchemaType

/-- **A stream is without an error exactly when it conforms to the schema**: there are no more
documents than a 64-bit integer can count, their number lies in the range of the schema, and each of
them conforms to the type of documents. -/
theorem Schema.errorFree_checkDocuments_iff (S : Schema) (σ : Store) (documents : List Value) :
    ErrorFree (S.checkDocuments σ documents) ↔ documents.length ≤ 2 ^ 63 - 1 ∧
      (∀ lower ∈ S.documents.lower, lower ≤ documents.length) ∧
      (∀ upper ∈ S.documents.upper, documents.length ≤ upper) ∧
      ∀ v ∈ documents, S.root.Conforms σ v := by
  have hlen : S.documents.check documents.length = .ok () ↔ _ := DocumentRange.check_eq_ok_iff
  unfold checkDocuments
  cases hc : S.documents.check documents.length with
  | error e =>
    rw [hc] at hlen
    simp only [errorFree_here, Finding.severity, ne_eq, not_true_eq_false, false_iff]
    rintro ⟨hmax, hlower, hupper, -⟩
    exact nomatch hlen.mpr ⟨hmax, hlower, hupper⟩
  | ok u =>
    obtain ⟨hmax, hlower, hupper⟩ := hlen.mp hc
    simp only [errorFree_flatMap, SchemaType.errorFree_check_iff]
    exact ⟨fun h => ⟨hmax, hlower, hupper, h⟩, fun h => h.2.2.2⟩

/-- A schema with a rule of its own, for numbers of seconds. -/
example :
    let seconds : Scalar.Parser := .custom fun _ raw =>
      if raw.toList.getLast? = some 's' then
        match Text.integerWithin? Text.minInt Text.maxInt raw.toList.dropLast with
        | some n => .ok (.integer n)
        | none => .error ⟨raw, .notANumber⟩
      else .error ⟨raw, .missingUnit "s"⟩
    let duration : SchemaType := .atomic 0 { name := "Duration", parser := some seconds }
    let S : Schema := ⟨.bean 1 "Step" [.mk "timeout" duration false none], .atLeast 1⟩
    let step (timeout : String) : Value := .mapping [(.string "timeout", .string timeout)]
    S.checkDocuments .empty [step "45s", step "45"] =
      [⟨[.key "timeout"], .refused ⟨"45", .missingUnit "s"⟩⟩] := by decide

end TypedManifest
