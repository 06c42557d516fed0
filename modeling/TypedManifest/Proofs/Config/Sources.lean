import TypedManifest.Config.Basic
import TypedManifest.Proofs.Hint.Request

/-!
# The sources of a configuration

A configuration makes a source for each list that it gives, with a provider that offers the list and
says that it knows it. What is true of one of these sources does not depend on the other two.
-/

namespace TypedManifest

namespace Config

/-- The source stands for the list: its provider offers the list at once and says that it knows
it. -/
structure Serves (σ : Store) (source : Source) (values : List String) : Prop where
  /-- The provider is in use. -/
  provider_lt : source.provider < σ.size
  /-- It says that it knows the list. -/
  known : (σ.provider source.provider).known = some values
  /-- It offers the list at once. -/
  answer : ∀ n, (σ.provider source.provider).answer n = .offers (values.map ({ value := · })) 0

variable {c : Config} {σ : Store}

theorem addSource_none {timeout : Nat} {name : String} :
    addSource timeout name none σ = (none, σ) := rfl

/-- Another source does not take anything away. -/
theorem Serves.addSource {source : Source} {values : List String} (h : Serves σ source values)
    (timeout : Nat) (name : String) (list : Option (List String)) :
    Serves (addSource timeout name list σ).2 source values := by
  cases list with
  | none => exact h
  | some list =>
    have hne : source.provider ≠ σ.size := Nat.ne_of_lt h.provider_lt
    constructor
    · exact Nat.lt_add_right _ h.provider_lt
    · simpa [Config.addSource, Store.add, Store.putProvider, hne] using h.known
    · simpa [Config.addSource, Store.add, Store.putProvider, hne] using h.answer

theorem serves_addSource (timeout : Nat) (name : String) (values : List String) (σ : Store) :
    ∃ source, (addSource timeout name (some values) σ).1 = some source ∧
      Serves (addSource timeout name (some values) σ).2 source values := by
  refine ⟨_, rfl, Nat.lt_add_one _, ?_, fun n => ?_⟩
  · simp [addSource, Store.add, Store.putProvider, Provider.fixed, Function.comp_def]
  · simp [addSource, Store.add, Store.putProvider, Provider.fixed]

theorem services_settings_of_none {folder : Nat} (h : c.services = none) :
    (c.settings folder σ).1.services = none := by
  simp only [settings, h, addSource_none]

/-- The source of services stands for the services of the configuration. -/
theorem serves_services (folder : Nat) (σ : Store) {values : List String}
    (h : c.services = some values) :
    ∃ source, (c.settings folder σ).1.services = some source ∧
      Serves (c.settings folder σ).2 source values := by
  obtain ⟨source, hs, hv⟩ := serves_addSource c.timeout "services" values
    (addSource c.timeout "buildpacks" c.buildpacks σ).2
  refine ⟨source, ?_, ?_⟩
  · simp only [settings, h]
    exact hs
  · simp only [settings, h]
    exact hv.addSource ..

end Config

end TypedManifest
