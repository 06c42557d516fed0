import TypedManifest.Check.Value

/-!
# A check, part by part

The check of a value is written as a recursion over values, lists of items and lists of entries at
once. Here it is taken apart: what is found in a sequence or a mapping is what is found in its items
or at its entries, one after the other (`check_sequence`, `check_bean`, `check_map`), and a value of
the wrong form has only its form against it. `checkInduction` is the induction that goes with these
equations, so that no other proof repeats the recursion.
-/

namespace TypedManifest

open Check Yaml

namespace Yaml.Value

theorem isNull_of_scalarText? : {v : Value} → {text : String} →
    v.scalarText? = some text → v.isNull = false
  | .string _, _, _ | .number _, _, _ | .bool _, _, _ => rfl
  | .tagged _ v, _, h => isNull_of_scalarText? (v := v) h

theorem eq_string_of_isString {key : Value} {name : String} (h : key.isString name = true) :
    key = .string name := by
  cases key with
  | string s => exact congrArg _ (of_decide_eq_true h)
  | _ => nomatch h

/-- A key that names something stands under no tag. -/
theorem hasKey_eq_true_iff {name : String} {entries : List (Value × Value)} :
    hasKey name entries = true ↔ .string name ∈ entries.map Prod.fst := by
  simp only [hasKey, List.any_eq_true, List.mem_map]
  constructor
  · rintro ⟨e, hmem, hkey⟩
    exact ⟨e, hmem, eq_string_of_isString hkey⟩
  · rintro ⟨e, hmem, hkey⟩
    exact ⟨e, hmem, hkey ▸ decide_eq_true rfl⟩

end Yaml.Value

/-- Whether an atomic type refuses a text, and why. -/
def Atomic.outcome (σ : Store) (a : Atomic) (text : String) : Except Scalar.Error Unit :=
  match a.parser with
  | some p => (p.parse σ text).map fun _ => ()
  | none => .ok ()

namespace SchemaType

/-! ### Texts -/

/-- The type accepts the text of a scalar. -/
def Accepts (σ : Store) (t : SchemaType) (text : String) : Prop :=
  ∃ accepted, t.checkScalar σ text = .ok accepted

theorem accepts_atomic_iff {σ : Store} {n : Nat} {a : Atomic} {text : String} :
    (SchemaType.atomic n a).Accepts σ text ↔ a.outcome σ text = .ok () := by
  simp only [Accepts, checkScalar, Atomic.outcome]
  cases a.parser with
  | none => simp
  | some p => cases hp : p.parse σ text <;> simp [hp, Except.map]

/-- A text is refused, or else it may be deprecated. -/
theorem checkText_atomic {σ : Store} {n : Nat} {a : Atomic} {text : String} :
    (SchemaType.atomic n a).checkText σ text = match a.outcome σ text with
      | .error e => [.here (.refused e)]
      | .ok () => (((SchemaType.atomic n a).deprecation? text).map fun d =>
          Diagnostic.here (.deprecated d)).toList := by
  simp only [checkText, checkScalar, Atomic.outcome]
  cases a.parser with
  | none => rfl
  | some p => cases hp : p.parse σ text <;> simp [hp, Except.map]

/-- Deprecation is a matter of the enumeration alone. -/
theorem deprecation?_congr {n m : Nat} {a b : Atomic} (h : a.enumeration = b.enumeration)
    (text : String) :
    (SchemaType.atomic n a).deprecation? text = (SchemaType.atomic m b).deprecation? text := by
  simp only [deprecation?, replacement?, enumeration?, h]

/-! ### Entries -/

/-- Where names differ, a property is found by its name. -/
theorem find?_name_eq_some {ps : List Property} {p : Property}
    (hn : (ps.map Property.name).Nodup) (hp : p ∈ ps) :
    ps.find? (·.name = p.name) = some p := by
  induction ps with
  | nil => nomatch hp
  | cons q ps ih =>
    rw [List.map_cons, List.nodup_cons] at hn
    obtain rfl | hp := List.mem_cons.mp hp
    · simp
    · have hne : q.name ≠ p.name := fun he => hn.1 (he ▸ List.mem_map_of_mem hp)
      rw [List.find?_cons_of_neg (by simpa using hne)]
      exact ih hn.2 hp

/-- What is found at an entry of a mapping that is to be a bean. -/
def checkProperty (σ : Store) (bean : SchemaType) (e : Value × Value) : List Diagnostic :=
  match e.1.string? with
  | none => [.here .namelessProperty]
  | some name => List.map (.under (.key name)) (
      match bean.property? name with
      | none => [.here (.unknownProperty bean.name)]
      | some p => if p.required && e.2.isNull then [.here (.noValue name)] else p.type.check σ e.2)

/-- What is found at an entry of a mapping that is to be a map. -/
def checkEntry (σ : Store) (keyType valueType : SchemaType) (e : Value × Value) : List Diagnostic :=
  (keyType.check σ e.1 ++ valueType.check σ e.2).map (.under (keyStep e.1))

theorem checkItems_eq_flatMap {σ : Store} {element : SchemaType} (i : Nat) (items : List Value) :
    checkItems σ element i items =
      (items.zipIdx i).flatMap fun (v, i) => (element.check σ v).map (.under (.item i)) := by
  induction items generalizing i with
  | nil => rw [checkItems]; rfl
  | cons v vs ih => rw [checkItems, ih, List.zipIdx_cons, List.flatMap_cons]

theorem checkProperties_eq_flatMap {σ : Store} {bean : SchemaType}
    (entries : List (Value × Value)) :
    checkProperties σ bean entries = entries.flatMap (bean.checkProperty σ) := by
  induction entries with
  | nil => rw [checkProperties]; rfl
  | cons e entries ih => rw [checkProperties, ih, List.flatMap_cons]; rfl

theorem checkEntries_eq_flatMap {σ : Store} {keyType valueType : SchemaType}
    (entries : List (Value × Value)) : checkEntries σ keyType valueType entries =
      entries.flatMap (checkEntry σ keyType valueType) := by
  induction entries with
  | nil => rw [checkEntries]; rfl
  | cons e entries ih => rw [checkEntries, ih, List.flatMap_cons]; rfl

/-! ### Values -/

/-- The value has the form that the type wants. -/
def hasForm : SchemaType → Value → Bool
  | .atomic .., v => v.scalarText?.isSome
  | .bean .., .mapping _ | .map .., .mapping _ | .sequence .., .sequence _ => true
  | _, _ => false

variable {σ : Store} {n : Nat} {t : SchemaType} {v : Value}

theorem check_of_isNull (h : v.isNull = true) : t.check σ v = [] := by
  cases v <;> simp_all [check, checkLeaf, Value.isNull]

theorem check_of_not_hasForm (hn : v.isNull = false) (hf : t.hasForm v = false) :
    t.check σ v = t.wrongShape v := by
  cases t <;> cases v <;> simp_all [check, checkLeaf, Value.isNull, hasForm]

theorem check_atomic {a : Atomic} {text : String} (h : v.scalarText? = some text) :
    (SchemaType.atomic n a).check σ v = (SchemaType.atomic n a).checkText σ text := by
  have hn := Value.isNull_of_scalarText? h
  cases v <;> simp_all [check, checkLeaf, Value.scalarText?]

theorem check_bean {name : String} {ps : List Property} {entries : List (Value × Value)} :
    (SchemaType.bean n name ps).check σ (.mapping entries) =
      entries.flatMap ((SchemaType.bean n name ps).checkProperty σ) ++
        (SchemaType.bean n name ps).checkPresence entries := by
  rw [check, checkProperties_eq_flatMap]

theorem check_sequence {element : SchemaType} {items : List Value} :
    (SchemaType.sequence n element).check σ (.sequence items) =
      items.zipIdx.flatMap fun (v, i) => (element.check σ v).map (.under (.item i)) := by
  rw [check, checkItems_eq_flatMap]

theorem check_map {key value : SchemaType} {entries : List (Value × Value)} :
    (SchemaType.map n key value).check σ (.mapping entries) =
      entries.flatMap (checkEntry σ key value) := by
  rw [check, checkEntries_eq_flatMap]

theorem sizeOf_entry_lt {k v : Value} {entries : List (Value × Value)} (h : (k, v) ∈ entries) :
    sizeOf k + sizeOf v < sizeOf entries := by
  have := List.sizeOf_lt_of_mem h
  rw [Prod.mk.sizeOf_spec] at this
  omega

/-- The induction that a check makes: over the parts of a value, along the parts of its type. -/
@[elab_as_elim]
theorem checkInduction {P : SchemaType → Value → Prop}
    (null : ∀ t v, v.isNull = true → P t v)
    (misfit : ∀ t v, v.isNull = false → t.hasForm v = false → P t v)
    (atomic : ∀ n a v text, v.scalarText? = some text → P (.atomic n a) v)
    (bean : ∀ n name ps entries, (∀ e ∈ entries, ∀ p ∈ ps, P (Property.type p) e.2) →
      P (.bean n name ps) (.mapping entries))
    (sequence : ∀ n element items, (∀ v ∈ items, P element v) →
      P (.sequence n element) (.sequence items))
    (map : ∀ n key value entries, (∀ e ∈ entries, P key e.1 ∧ P value e.2) →
      P (.map n key value) (.mapping entries)) (t : SchemaType) (v : Value) : P t v := by
  by_cases hn : v.isNull = true
  · exact null t v hn
  by_cases hf : t.hasForm v = true
  · match t, v, hf with
    | .atomic n a, v, hf =>
      obtain ⟨text, ht⟩ := Option.isSome_iff_exists.mp hf
      exact atomic n a v text ht
    | .bean n name ps, .mapping entries, _ =>
      refine bean n name ps entries fun (k, v) he p _ => ?_
      have := sizeOf_entry_lt he
      exact checkInduction null misfit atomic bean sequence map p.type v
    | .sequence n element, .sequence items, _ =>
      refine sequence n element items fun v hv => ?_
      have := List.sizeOf_lt_of_mem hv
      exact checkInduction null misfit atomic bean sequence map element v
    | .map n key value, .mapping entries, _ =>
      refine map n key value entries fun (k, v) he => ?_
      have := sizeOf_entry_lt he
      exact ⟨checkInduction null misfit atomic bean sequence map key k,
        checkInduction null misfit atomic bean sequence map value v⟩
  · exact misfit t v (by simpa using hn) (by simpa using hf)
termination_by sizeOf v
decreasing_by
  all_goals simp only [Value.mapping.sizeOf_spec, Value.sequence.sizeOf_spec]; omega

/-- The value is a container that the type has types for the parts of. -/
def opens : SchemaType → Value → Bool
  | .bean .., .mapping _ | .map .., .mapping _ | .sequence .., .sequence _ => true
  | _, _ => false

theorem opens_of_isNull (h : v.isNull = true) : t.opens v = false := by
  cases v with
  | sequence items => nomatch h
  | mapping entries => nomatch h
  | _ => cases t <;> rfl

theorem opens_of_not_hasForm (h : t.hasForm v = false) : t.opens v = false := by
  cases t with
  | atomic n a => cases v <;> rfl
  | _ => cases v <;> first | rfl | nomatch h

/-- The induction over the parts of a value, for what does not depend on why a value has none. -/
@[elab_as_elim]
theorem partsInduction {P : SchemaType → Value → Prop}
    (whole : ∀ t v, t.opens v = false → P t v)
    (bean : ∀ n name ps entries, (∀ e ∈ entries, ∀ p ∈ ps, P (Property.type p) e.2) →
      P (.bean n name ps) (.mapping entries))
    (sequence : ∀ n element items, (∀ v ∈ items, P element v) →
      P (.sequence n element) (.sequence items))
    (map : ∀ n key value entries, (∀ e ∈ entries, P key e.1 ∧ P value e.2) →
      P (.map n key value) (.mapping entries)) (t : SchemaType) (v : Value) : P t v := by
  induction t, v using checkInduction with
  | null t v hn => exact whole t v (opens_of_isNull hn)
  | misfit t v _ hf => exact whole t v (opens_of_not_hasForm hf)
  | atomic n a v text _ => exact whole (.atomic n a) v (by cases v <;> rfl)
  | bean n name ps entries ih => exact bean n name ps entries ih
  | sequence n element items ih => exact sequence n element items ih
  | map n key value entries ih => exact map n key value entries ih

end SchemaType

end TypedManifest
