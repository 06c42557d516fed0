import Mathlib.Data.List.Induction
import Mathlib.Logic.Function.Basic
import TypedManifest.Proofs.Table
import TypedManifest.Schema.Definition

/-!
# Beans under construction

A bean is looked at in two ways: its properties are listed in the order in which they were added,
and one of them is found by its name. The two views agree as long as the bean is *coherent*, which
every bean is that has been built by adding properties (`Workbench.coherent_run`).

Beans are built on a workbench, several at a time, and one property may be added to any number of
them. The calls that add properties come in any order and may fail. `Workbench.step_cases` says what
a call does; the rest is told by the calls of a run that have succeeded (`Workbench.properties_run`)
and by all of its calls (`Workbench.names_run`).
-/

namespace TypedManifest

/-! ### One bean -/

namespace Bean

variable {b : Bean} {p : Property} {n : String}

/-- The names that are taken. -/
def names (b : Bean) : List String := b.rows.map Prod.fst

/-- The bean with a property more, behind those it has. -/
def push (b : Bean) (p : Property) : Bean := { b with rows := b.rows ++ [(p.name, p)] }

theorem names_push : (b.push p).names = b.names ++ [p.name] := List.map_append

theorem isSome_property?_iff : (b.property? n).isSome = true ↔ n ∈ b.names :=
  lookup_isSome_iff_mem

/-- When the name is taken the bean is left as it was. -/
theorem extend_of_mem (h : p.name ∈ b.names) :
    b.extend p = (.error (.duplicateProperty b.name p.name), b) := by
  rw [extend, if_pos (isSome_property?_iff.mpr h)]

theorem extend_of_not_mem (h : p.name ∉ b.names) : b.extend p = (.ok (), b.push p) := by
  rw [extend, if_neg (mt isSome_property?_iff.mp h)]
  rfl

/-- Every property stands under its own name, and no two of them under one. -/
structure Coherent (b : Bean) : Prop where
  /-- A property stands under its own name. -/
  name_eq : ∀ row ∈ b.rows, row.2.name = row.1
  /-- A name is not taken twice. -/
  nodup : b.names.Nodup

theorem coherent_fresh (name : String) : Coherent { name := name } := ⟨nofun, List.nodup_nil⟩

theorem Coherent.push (hb : b.Coherent) (h : p.name ∉ b.names) : (b.push p).Coherent := by
  constructor
  · intro row hrow
    rcases List.mem_append.mp hrow with hrow | hrow
    · exact hb.name_eq row hrow
    · rw [List.mem_singleton.mp hrow]
  · rw [names_push, List.nodup_append]
    refine ⟨hb.nodup, List.nodup_singleton _, fun x hx y hy => ?_⟩
    rintro rfl
    exact h (List.mem_singleton.mp hy ▸ hx)

theorem Coherent.map_name_properties (hb : b.Coherent) :
    b.properties.map Property.name = b.names := by
  rw [properties, names, List.map_map]
  exact List.map_congr_left hb.name_eq

/-- What is found under a name is what is listed with that name. -/
theorem Coherent.property?_eq_some_iff (hb : b.Coherent) :
    b.property? n = some p ↔ p ∈ b.properties ∧ p.name = n := by
  rw [property?, ← mem_iff_lookup hb.nodup]
  constructor
  · intro h
    exact ⟨List.mem_map_of_mem h, hb.name_eq _ h⟩
  · rintro ⟨h, rfl⟩
    obtain ⟨row, hrow, rfl⟩ := List.mem_map.mp h
    rw [hb.name_eq row hrow]
    exact hrow

theorem find?_map_snd {rows : List (String × Property)} (h : ∀ row ∈ rows, row.2.name = row.1) :
    (rows.map Prod.snd).find? (·.name = n) = rows.lookup n := by
  induction rows with
  | nil => rfl
  | cons row rows ih =>
    obtain ⟨m, q⟩ := row
    have hq : q.name = m := h (m, q) List.mem_cons_self
    rw [lookup_cons_eq_if, ← ih fun row hrow => h row (List.mem_cons_of_mem _ hrow)]
    by_cases hn : n = m
    · simp [hq, hn]
    · simp [hq, hn, Ne.symm hn]

/-- The type that a bean becomes is looked at in the same ways. -/
theorem Coherent.property?_freeze (hb : b.Coherent) (node : Nat) (n : String) :
    (b.freeze node).property? n = b.property? n :=
  find?_map_snd hb.name_eq

end Bean

/-! ### Calls on a workbench -/

/-- Beans under construction. -/
structure Workbench where
  /-- The beans, by number. -/
  beans : Nat → Bean

/-- A call that adds a property to a bean. -/
structure Addition where
  /-- The number of the bean. -/
  bean : Nat
  /-- The property. -/
  property : Property

/-- The additions to a bean, among others. -/
def additionsTo (i : Nat) (as : List Addition) : List Addition := as.filter (·.bean = i)

theorem additionsTo_append (i : Nat) (as as' : List Addition) :
    additionsTo i (as ++ as') = additionsTo i as ++ additionsTo i as' := List.filter_append ..

theorem additionsTo_singleton (a : Addition) : additionsTo a.bean [a] = [a] := by
  simp [additionsTo]

theorem additionsTo_singleton_of_ne {a : Addition} {i : Nat} (h : a.bean ≠ i) :
    additionsTo i [a] = [] := by
  simp [additionsTo, h]

namespace Workbench

/-- Beans of the given names to which nothing has been added. -/
def fresh (names : Nat → String) : Workbench := ⟨fun i => { name := names i }⟩

/-- What a call returns. -/
def attempt (w : Workbench) (a : Addition) : Except DefinitionError Unit :=
  ((w.beans a.bean).extend a.property).1

/-- What a call makes of the beans, whether it fails or not. -/
def step (w : Workbench) (a : Addition) : Workbench :=
  ⟨Function.update w.beans a.bean ((w.beans a.bean).extend a.property).2⟩

/-- What calls make of the beans, one after the other. -/
def run (w : Workbench) (as : List Addition) : Workbench := as.foldl step w

/-- The calls of a run that succeed. -/
def successes (w : Workbench) : List Addition → List Addition
  | [] => []
  | a :: as => (if (w.attempt a).isOk then [a] else []) ++ (w.step a).successes as

variable (w : Workbench) (a : Addition) (as : List Addition) (i : Nat)

/-- A call on a name that is taken fails and does nothing. Any other one succeeds, and its bean has
a property more. -/
theorem step_cases :
    a.property.name ∈ (w.beans a.bean).names ∧
      w.attempt a = .error (.duplicateProperty (w.beans a.bean).name a.property.name) ∧
      w.step a = w ∨
    a.property.name ∉ (w.beans a.bean).names ∧ w.attempt a = .ok () ∧
      (w.step a).beans a.bean = (w.beans a.bean).push a.property := by
  by_cases h : a.property.name ∈ (w.beans a.bean).names
  · have hextend := Bean.extend_of_mem h
    refine .inl ⟨h, congrArg Prod.fst hextend, ?_⟩
    rw [step, hextend, Function.update_eq_self]
  · have hextend := Bean.extend_of_not_mem h
    refine .inr ⟨h, congrArg Prod.fst hextend, ?_⟩
    rw [step, hextend]
    exact Function.update_self ..

/-- A call leaves all beans but one alone. -/
theorem step_of_ne {i : Nat} (h : i ≠ a.bean) : (w.step a).beans i = w.beans i :=
  Function.update_of_ne h ..

theorem name_step : ((w.step a).beans i).name = (w.beans i).name := by
  by_cases hi : i = a.bean
  · subst hi
    rcases w.step_cases a with ⟨-, -, hstep⟩ | ⟨-, -, hstep⟩
    · rw [hstep]
    · rw [hstep]
      rfl
  · rw [w.step_of_ne a hi]

theorem coherent_step (h : (w.beans i).Coherent) : ((w.step a).beans i).Coherent := by
  by_cases hi : i = a.bean
  · subst hi
    rcases w.step_cases a with ⟨-, -, hstep⟩ | ⟨hnew, -, hstep⟩
    · rwa [hstep]
    · rw [hstep]
      exact h.push hnew
  · rwa [w.step_of_ne a hi]

/-- The properties of a bean grow by that of a call to it that succeeds. -/
theorem properties_step : ((w.step a).beans i).properties = (w.beans i).properties ++
    (additionsTo i (if (w.attempt a).isOk then [a] else [])).map Addition.property := by
  by_cases hi : a.bean = i
  · subst hi
    rcases w.step_cases a with ⟨-, hattempt, hstep⟩ | ⟨-, hattempt, hstep⟩
    · rw [hattempt, hstep]
      exact (List.append_nil _).symm
    · rw [hattempt, hstep]
      show _ = _ ++ (additionsTo a.bean [a]).map Addition.property
      rw [additionsTo_singleton]
      exact List.map_append
  · rw [w.step_of_ne a (Ne.symm hi)]
    split
    · rw [additionsTo_singleton_of_ne hi]
      exact (List.append_nil _).symm
    · exact (List.append_nil _).symm

/-- The name of a call is taken afterwards, whether or not the call succeeds. -/
theorem names_step : ((w.step a).beans a.bean).names =
    if a.property.name ∈ (w.beans a.bean).names then (w.beans a.bean).names
    else (w.beans a.bean).names ++ [a.property.name] := by
  rcases w.step_cases a with ⟨hold, -, hstep⟩ | ⟨hnew, -, hstep⟩
  · rw [hstep, if_pos hold]
  · rw [hstep, if_neg hnew, Bean.names_push]

theorem attempt_eq_error_iff {e : DefinitionError} : w.attempt a = .error e ↔
    a.property.name ∈ (w.beans a.bean).names ∧
      e = .duplicateProperty (w.beans a.bean).name a.property.name := by
  rcases w.step_cases a with ⟨hold, hattempt, -⟩ | ⟨hnew, hattempt, -⟩
  · rw [hattempt, Except.error.injEq, eq_comm]
    exact (and_iff_right hold).symm
  · rw [hattempt]
    exact iff_of_false nofun fun h => hnew h.1

/-- A call that fails leaves everything as it was. -/
theorem step_of_error {e : DefinitionError} (h : w.attempt a = .error e) : w.step a = w := by
  rcases w.step_cases a with ⟨-, -, hstep⟩ | ⟨-, hattempt, -⟩
  · exact hstep
  · rw [hattempt] at h
    nomatch h

/-! ### Runs -/

theorem name_run : ((w.run as).beans i).name = (w.beans i).name := by
  induction as generalizing w with
  | nil => rfl
  | cons a as ih => exact (ih (w.step a)).trans (w.name_step a i)

theorem coherent_run {i : Nat} (h : (w.beans i).Coherent) : ((w.run as).beans i).Coherent := by
  induction as generalizing w with
  | nil => exact h
  | cons a as ih => exact ih (w.step a) (w.coherent_step a i h)

/-- **A bean holds what has been added to it, in that order.** -/
theorem properties_run : ((w.run as).beans i).properties =
    (w.beans i).properties ++ (additionsTo i (w.successes as)).map Addition.property := by
  induction as generalizing w with
  | nil => simp [run, successes, additionsTo]
  | cons a as ih =>
    show (((w.step a).run as).beans i).properties = _
    rw [ih, properties_step, successes, additionsTo_append, List.map_append, List.append_assoc]

/-- **The names that are taken are those that have been tried**, each once. -/
theorem names_run (names : Nat → String) : (((fresh names).run as).beans i).names =
    ((additionsTo i as).map (·.property.name)).eraseDups := by
  -- Whether a name is new is a matter of the calls before it, so the last call is taken off.
  induction as using List.reverseRecOn with
  | nil => rfl
  | append_singleton as a ih =>
    have hrun : (fresh names).run (as ++ [a]) = ((fresh names).run as).step a := List.foldl_append
    rw [hrun, additionsTo_append, List.map_append]
    by_cases hi : a.bean = i
    · subst hi
      rw [names_step, ih, additionsTo_singleton, List.map_singleton, eraseDups_append_singleton]
      simp only [List.mem_eraseDups]
    · rw [step_of_ne _ a (Ne.symm hi), ih, additionsTo_singleton_of_ne hi, List.map_nil,
        List.append_nil]

/-- A name is taken exactly when a property of that name has been added. -/
theorem mem_names_run_iff (names : Nat → String) {n : String} :
    n ∈ (((fresh names).run as).beans i).names ↔
      ∃ a ∈ (fresh names).successes as, a.bean = i ∧ a.property.name = n := by
  have hcoherent : (((fresh names).run as).beans i).Coherent :=
    coherent_run _ as (Bean.coherent_fresh (names i))
  rw [← hcoherent.map_name_properties, properties_run]
  simp [fresh, Bean.properties, additionsTo, and_assoc]

/-- **What is built on a workbench.** After any calls, a bean lists the properties that have been
added to it, in the order of the calls that did so, and no two of them with one name. What is found
under a name is what is listed with it; there are as many properties as names have been tried; and
the properties that must be there are those of the list. The type that the bean becomes answers in
the same way. A further call fails exactly when an earlier one has added a property of that name to
the same bean, and it then says so and changes nothing; and whether it fails or not, it leaves the
other beans alone. -/
theorem construction_law (names : Nat → String) (calls : List Addition) :
    let w := (fresh names).run calls
    let done := (fresh names).successes calls
    (∀ i, let b := w.beans i
      let added := (additionsTo i done).map Addition.property
      (b.properties = added ∧ (b.properties.map Property.name).Nodup) ∧
      (∀ n p, b.property? n = some p ↔ p ∈ b.properties ∧ p.name = n) ∧
      b.size = ((additionsTo i calls).map (·.property.name)).eraseDups.length ∧
      b.requiredProperties = added.filter (·.required) ∧
      ∀ node, (b.freeze node).properties = b.properties ∧
        (∀ n, (b.freeze node).property? n = b.property? n) ∧
        (b.freeze node).requiredProperties = b.requiredProperties) ∧
    ∀ a : Addition,
      (∀ e, w.attempt a = .error e ↔
        e = .duplicateProperty (names a.bean) a.property.name ∧
          ∃ a' ∈ done, a'.bean = a.bean ∧ a'.property.name = a.property.name) ∧
      (∀ e, w.attempt a = .error e → w.step a = w) ∧
      ∀ i, i ≠ a.bean → (w.step a).beans i = w.beans i := by
  intro w done
  refine ⟨fun i => ?bean, fun a => ⟨fun e => ?fails, fun e he => w.step_of_error a he,
    fun i hi => w.step_of_ne a hi⟩⟩
  case bean =>
    intro b added
    have hcoherent : b.Coherent := coherent_run _ calls (Bean.coherent_fresh (names i))
    have hproperties : b.properties = added := properties_run (fresh names) calls i
    have hsize : b.size = b.names.length := (List.length_map _).symm
    refine ⟨⟨hproperties, ?_⟩, fun n p => hcoherent.property?_eq_some_iff, ?_, ?_, fun node =>
      ⟨rfl, hcoherent.property?_freeze node, rfl⟩⟩
    · rw [hcoherent.map_name_properties]
      exact hcoherent.nodup
    · rw [hsize, names_run]
    · rw [Bean.requiredProperties, hproperties]
  case fails =>
    have hname : (w.beans a.bean).name = names a.bean := name_run (fresh names) calls a.bean
    rw [attempt_eq_error_iff, mem_names_run_iff, hname, and_comm]

/-- Two beans share a property; one of them gets another, and then refuses a second property of a
name it has. -/
theorem construction_law_shared :
    let text : SchemaType := .atomic 0 { name := "Text" }
    let size : SchemaType := .atomic 1 { name := "Size" }
    let memory : Property := .mk "memory" size false none
    let title : Property := .mk "title" text true none
    let names := fun i => if i = 0 then "Application" else "Process"
    let w := (fresh names).run [⟨0, memory⟩, ⟨1, memory⟩, ⟨0, title⟩]
    let again : Addition := ⟨0, .mk "memory" text true none⟩
    ((w.beans 0).properties = [memory, title] ∧ (w.beans 0).size = 2) ∧
      (w.beans 0).requiredProperties = [title] ∧
      (w.beans 0).property? "memory" = some memory ∧
      (w.beans 1).property? "memory" = some memory ∧
      w.attempt again = .error (.duplicateProperty "Application" "memory") ∧ w.step again = w ∧
      (w.step ⟨0, .mk "routes" text false none⟩).beans 1 = w.beans 1 := by
  intro text size memory title names w again
  obtain ⟨hbeans, hcalls⟩ := construction_law names [⟨0, memory⟩, ⟨1, memory⟩, ⟨0, title⟩]
  obtain ⟨⟨hlisted, -⟩, hfound, hsize, hrequired, -⟩ := hbeans 0
  obtain ⟨⟨hlisting, -⟩, hlookup, -⟩ := hbeans 1
  obtain ⟨hfails, hunchanged, -⟩ := hcalls again
  obtain ⟨-, -, hothers⟩ := hcalls ⟨0, .mk "routes" text false none⟩
  have hagain : w.attempt again = .error (.duplicateProperty "Application" "memory") :=
    (hfails _).mpr ⟨rfl, ⟨0, memory⟩, List.mem_cons_self, rfl, rfl⟩
  refine ⟨⟨hlisted, hsize⟩, hrequired, (hfound "memory" memory).mpr ⟨?_, rfl⟩,
    (hlookup "memory" memory).mpr ⟨?_, rfl⟩, hagain, hunchanged _ hagain, hothers 1 (by decide)⟩
  · rw [hlisted]
    exact List.mem_cons_self
  · rw [hlisting]
    exact List.mem_cons_self

end Workbench

end TypedManifest
