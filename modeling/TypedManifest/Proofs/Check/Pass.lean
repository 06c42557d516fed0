import TypedManifest.Proofs.Check.Parts
import TypedManifest.Proofs.Check.Place

/-!
# A check in one pass

A check may be made in one pass over a document. The pass is given the list of what has been found
so far and the text of the place that it has come to; it writes each finding, with the text of its
place, behind those that are there, and goes on with the longer list. This module defines the pass
and proves that it does what a check does: it leaves the list as it is and writes behind it what the
check finds in the value, seen from the place at which the value stands (`walk_eq`).
-/

namespace TypedManifest

open Check Yaml

namespace Check

/-- A finding and the text of its place. -/
structure Report where
  /-- The text of the place. -/
  place : String
  /-- What is found there. -/
  finding : Finding
  deriving DecidableEq, Repr

/-- A finding in a value, when the place of the value has the given text. -/
def Report.below (base : String) (d : Diagnostic) : Report :=
  ⟨d.path.foldl Step.after base, d.finding⟩

end Check

namespace SchemaType

/-! ### The pass -/

/-- Write down the required properties that no key names. -/
def walkPresence (bean : SchemaType) (base : String) (entries : List (Value × Value))
    (found : List Report) : List Report :=
  bean.requiredProperties.foldl (fun found p =>
    if Value.hasKey p.name entries then found else found ++ [⟨base, .missingProperty p.name⟩]) found

mutual

/-- Write down what is found in the value at a place. -/
def walk (σ : Store) (t : SchemaType) (base : String) (found : List Report) : Value → List Report
  | .sequence items =>
    match t with
    | .sequence _ element => walkItems σ element base 0 found items
    | t => found ++ [⟨base, .wrongShape t.name .sequence⟩]
  | .mapping entries =>
    match t with
    | .bean .. => walkPresence t base entries (walkProperties σ t base found entries)
    | .map _ key value => walkEntries σ key value base found entries
    | t => found ++ [⟨base, .wrongShape t.name .mapping⟩]
  | v => found ++ (checkLeaf σ t v).map (.below base)

/-- Write down what is found in the items of the sequence at a place, the first of which has number
`i`. -/
def walkItems (σ : Store) (element : SchemaType) (base : String) (i : Nat)
    (found : List Report) : List Value → List Report
  | [] => found
  | v :: vs =>
    walkItems σ element base (i + 1) (walk σ element ((Step.item i).after base) found v) vs

/-- Write down what is found at the entries of the mapping at a place, which is to be a bean. -/
def walkProperties (σ : Store) (bean : SchemaType) (base : String) (found : List Report) :
    List (Value × Value) → List Report
  | [] => found
  | (key, value) :: entries =>
    walkProperties σ bean base
      (match key.string? with
        | none => found ++ [⟨base, .namelessProperty⟩]
        | some name =>
          let place := (Step.key name).after base
          match bean.property? name with
          | none => found ++ [⟨place, .unknownProperty bean.name⟩]
          | some p =>
            if p.required && value.isNull then found ++ [⟨place, .noValue name⟩]
            else walk σ p.type place found value) entries

/-- Write down what is found at the entries of the mapping at a place, which is to be a map. -/
def walkEntries (σ : Store) (keyType valueType : SchemaType) (base : String)
    (found : List Report) : List (Value × Value) → List Report
  | [] => found
  | (key, value) :: entries =>
    let place := (keyStep key).after base
    walkEntries σ keyType valueType base
      (walk σ valueType place (walk σ keyType place found key) value) entries

end

/-! ### What the pass writes down -/

variable {σ : Store} {t : SchemaType} {v : Value}

/-- The pass writes behind the list what a check finds in the value. -/
def Writes (σ : Store) (t : SchemaType) (v : Value) : Prop :=
  ∀ base found, walk σ t base found v = found ++ (t.check σ v).map (.below base)

theorem map_below_under (base : String) (step : Step) (found : List Diagnostic) :
    (found.map (Diagnostic.under step)).map (Report.below base) =
      found.map (.below (step.after base)) := by
  rw [List.map_map]
  rfl

theorem walkPresence_eq (bean : SchemaType) (base : String) (entries : List (Value × Value))
    (found : List Report) : walkPresence bean base entries found =
      found ++ (bean.checkPresence entries).map (.below base) := by
  unfold walkPresence checkPresence
  induction bean.requiredProperties generalizing found with
  | nil => simp
  | cons p ps ih =>
    rw [List.foldl_cons, ih]
    cases hk : Value.hasKey p.name entries with
    | true => simp [hk]
    | false => simp [hk, Report.below, Diagnostic.here]

theorem walkItems_eq {element : SchemaType} {items : List Value}
    (h : ∀ v ∈ items, Writes σ element v) (base : String) (i : Nat) (found : List Report) :
    walkItems σ element base i found items =
      found ++ (checkItems σ element i items).map (.below base) := by
  induction items generalizing i found with
  | nil => simp [walkItems, checkItems]
  | cons v vs ih =>
    obtain ⟨hv, hvs⟩ := List.forall_mem_cons.mp h
    rw [walkItems, ih hvs, hv, checkItems, List.map_append, map_below_under, List.append_assoc]

/-- What the pass writes down at one entry of a mapping that is to be a bean. -/
theorem walkProperty_eq {bean : SchemaType} {e : Value × Value}
    (h : ∀ p ∈ bean.properties, Writes σ p.type e.2) (base : String) (found : List Report) :
    (match e.1.string? with
      | none => found ++ [⟨base, .namelessProperty⟩]
      | some name =>
        let place := (Step.key name).after base
        match bean.property? name with
        | none => found ++ [⟨place, .unknownProperty bean.name⟩]
        | some p =>
          if p.required && e.2.isNull then found ++ [⟨place, .noValue name⟩]
          else walk σ p.type place found e.2) =
      found ++ (bean.checkProperty σ e).map (.below base) := by
  unfold checkProperty
  cases e.1.string? with
  | none => rfl
  | some name =>
    simp only [map_below_under]
    cases hp : bean.property? name with
    | none => rfl
    | some p =>
      have hmem : p ∈ bean.properties := List.mem_of_find?_eq_some hp
      by_cases hn : (p.required && e.2.isNull) = true
      · simp only [hn, if_true]
        rfl
      · simp only [hn]
        exact h p hmem _ found

theorem walkProperties_eq {bean : SchemaType} {entries : List (Value × Value)}
    (h : ∀ e ∈ entries, ∀ p ∈ bean.properties, Writes σ p.type e.2) (base : String)
    (found : List Report) : walkProperties σ bean base found entries =
      found ++ (entries.flatMap (bean.checkProperty σ)).map (.below base) := by
  induction entries generalizing found with
  | nil => simp [walkProperties]
  | cons e entries ih =>
    obtain ⟨he, hes⟩ := List.forall_mem_cons.mp h
    rw [walkProperties, ih hes, walkProperty_eq he, List.flatMap_cons, List.map_append,
      List.append_assoc]

theorem walkEntries_eq {keyType valueType : SchemaType} {entries : List (Value × Value)}
    (h : ∀ e ∈ entries, Writes σ keyType e.1 ∧ Writes σ valueType e.2) (base : String)
    (found : List Report) : walkEntries σ keyType valueType base found entries =
      found ++ (entries.flatMap (checkEntry σ keyType valueType)).map (.below base) := by
  induction entries generalizing found with
  | nil => simp [walkEntries]
  | cons e entries ih =>
    obtain ⟨he, hes⟩ := List.forall_mem_cons.mp h
    rw [walkEntries, ih hes, he.2, he.1, List.flatMap_cons, checkEntry, List.map_append,
      map_below_under, List.map_append]
    simp only [List.append_assoc]

/-- Of a value that is not taken apart the check of the whole is written down. -/
theorem writes_of_not_opens (h : t.opens v = false) : Writes σ t v := by
  intro base found
  cases v with
  | sequence items =>
    cases t with
    | sequence n element => nomatch h
    | _ => rfl
  | mapping entries =>
    cases t with
    | bean n name ps => nomatch h
    | map n key value => nomatch h
    | _ => rfl
  | _ => simp only [walk, check]

/-- **The pass does what a check does**: it writes behind the list what the check finds in the
value, each finding at the place that it has when the value stands at the given one. -/
theorem walk_eq (σ : Store) (t : SchemaType) (v : Value) (base : String) (found : List Report) :
    walk σ t base found v = found ++ (t.check σ v).map (.below base) := by
  suffices h : Writes σ t v from h base found
  induction t, v using partsInduction with
  | whole t v h => exact writes_of_not_opens h
  | bean n name ps entries ih =>
    intro base found
    rw [walk, walkPresence_eq, walkProperties_eq ih, check_bean, List.map_append,
      List.append_assoc]
  | sequence n element items ih =>
    intro base found
    rw [walk, walkItems_eq ih, check]
  | map n key value entries ih =>
    intro base found
    rw [walk, walkEntries_eq ih, check_map]

end SchemaType

end TypedManifest
