import Mathlib.Data.List.Nodup
import TypedManifest.Check.Stream
import TypedManifest.Manifest
import TypedManifest.Proofs.Check.Parts
import TypedManifest.Proofs.Check.Place

/-!
# Defaults and applications

What a manifest may set for all applications it may set for one of them, by the very same property.
So settings are judged alike in either place: an application with a name and some settings has
against it what the settings have against them at the top of a manifest, seen from the application
(`check_defaults_in_application`).

The argument follows a finding on its way up. An entry is judged by the property that its key leads
to, whichever of the two beans the property is in; nothing is found at a name, nor in the other
applications, nor missing; and the steps into the list of applications are put in front.
-/

namespace TypedManifest

open Check Yaml

namespace SchemaType

variable {σ : Store} {n : Nat} {t : SchemaType} {p : Property}

/-- An entry is judged by the property that its key leads to, in whatever bean that is. -/
theorem checkProperty_of_property {e : Value × Value} {key : String} (hk : e.1.string? = some key)
    (hp : t.property? key = some p) : t.checkProperty σ e = List.map (.under (.key key))
      (if p.required && e.2.isNull then [.here (.noValue key)] else p.type.check σ e.2) := by
  rw [checkProperty, hk]
  simp only [hp]

variable {element : SchemaType} {items items' : List Value}

theorem checkItems_append (i : Nat) : checkItems σ element i (items ++ items') =
    checkItems σ element i items ++ checkItems σ element (i + items.length) items' := by
  induction items generalizing i with
  | nil => rfl
  | cons v vs ih =>
    have hnext : i + 1 + vs.length = i + (v :: vs).length := by
      rw [List.length_cons]
      omega
    rw [List.cons_append, checkItems, checkItems, ih, List.append_assoc, hnext]

theorem checkItems_eq_nil (h : ∀ v ∈ items, element.check σ v = []) (i : Nat) :
    checkItems σ element i items = [] := by
  induction items generalizing i with
  | nil => rfl
  | cons v vs ih =>
    obtain ⟨hv, hvs⟩ := List.forall_mem_cons.mp h
    rw [checkItems, hv, ih hvs]
    rfl

/-- What is found in a sequence in which there is nothing against any other item. -/
theorem check_sequence_of_others {v : Value} (h : ∀ w ∈ items ++ items', element.check σ w = []) :
    (SchemaType.sequence n element).check σ (.sequence (items ++ v :: items')) =
      (element.check σ v).map (.under (.item items.length)) := by
  obtain ⟨hbefore, hafter⟩ := List.forall_mem_append.mp h
  rw [check, checkItems_append, checkItems_eq_nil hbefore, checkItems, checkItems_eq_nil hafter,
    List.nil_append, List.append_nil, Nat.zero_add]

end SchemaType

namespace Manifest.Settings

open SchemaType

variable (s : Settings) {σ : Store}

/-! ### The two beans -/

theorem name_properties : s.properties.map Property.name =
    ["buildpack", "command", "disk_quota", "domain", "domains", "env", "host", "hosts",
      "instances", "memory", "name", "no-hostname", "no-route", "path", "random-route", "routes",
      "services", "stack", "timeout", "health-check-type", "health-check-http-endpoint"] := rfl

theorem name_toplevel : s.toplevel.properties.map Property.name =
    ["applications", "inherit", "buildpack", "command", "disk_quota", "domain", "domains", "env",
      "instances", "memory", "no-hostname", "no-route", "path", "random-route", "routes",
      "services", "stack", "timeout", "health-check-type", "health-check-http-endpoint"] := rfl

variable {s} {p : Property}

/-- A property of applications is found in their bean. -/
theorem property?_application (hp : p ∈ s.properties) : s.application.property? p.name = some p :=
  have hnodup : (s.properties.map Property.name).Nodup := by rw [name_properties]; decide
  find?_name_eq_some hnodup hp

theorem property?_toplevel (hp : p ∈ s.toplevel.properties) :
    s.toplevel.property? p.name = some p :=
  find?_name_eq_some (by rw [name_toplevel]; decide) hp

theorem mem_shared_iff :
    p ∈ s.shared ↔ p ∈ s.application.properties ∧ p.name ∉ ["name", "host", "hosts"] := by
  simp [shared, isIdentifying, application, SchemaType.properties]

theorem shared_subset : s.shared ⊆ s.properties := fun _ hp => (mem_shared_iff.mp hp).1

theorem shared_subset_toplevel : s.shared ⊆ s.toplevel.properties :=
  fun _ hp => List.mem_cons_of_mem _ (List.mem_cons_of_mem _ hp)

theorem name_ne_empty_of_mem_shared (hp : p ∈ s.shared) : p.name ≠ "" := by
  have hname : p.name ∈ s.properties.map Property.name :=
    List.mem_map_of_mem (shared_subset hp)
  rw [name_properties] at hname
  rintro he
  rw [he] at hname
  revert hname
  decide

/-- An entry whose key leads to a shared property is judged alike in both beans. -/
theorem checkProperty_shared {e : Value × Value} (hp : p ∈ s.shared)
    (hk : e.1.string? = some p.name) :
    s.application.checkProperty σ e = s.toplevel.checkProperty σ e := by
  rw [checkProperty_of_property hk (property?_application (shared_subset hp)),
    checkProperty_of_property hk (property?_toplevel (shared_subset_toplevel hp))]

/-- There is nothing against a name that is not blank. -/
theorem checkProperty_name {name : Value} {text : String} (ht : name.scalarText? = some text)
    (hb : Text.isBlankString text = false) :
    s.application.checkProperty σ (.string "name", name) = [] := by
  have hmem : s.property "name" s.filledText true ∈ s.properties := by simp [properties]
  rw [checkProperty_of_property rfl (property?_application hmem)]
  have hnull : name.isNull = false := Value.isNull_of_scalarText? ht
  have hcheck : s.filledText.check σ name = [] := by
    rw [filledText, check_atomic ht, checkText_atomic]
    simp [Atomic.outcome, Scalar.Parser.parse, Scalar.requireText, hb, Except.map, deprecation?,
      replacement?, enumeration?]
  simp [property, Property.required, Property.type, hnull, hcheck]

/-! ### Settings in either place -/

variable {m : List (Value × Value)}

/-- What is found in a mapping at the top of a manifest, where nothing is required. -/
theorem check_toplevel : s.toplevel.check σ (.mapping m) =
    m.flatMap (s.toplevel.checkProperty σ) := by
  have hpresence : s.toplevel.checkPresence m = [] := rfl
  rw [toplevel, check_bean, ← toplevel, hpresence, List.append_nil]

/-- What is found in an application that has a name. -/
theorem check_application (hname : Value.hasKey "name" m = true) :
    s.application.check σ (.mapping m) = m.flatMap (s.application.checkProperty σ) := by
  have hrequired : s.application.requiredProperties = [s.property "name" s.filledText true] := rfl
  have hpresence : s.application.checkPresence m = [] := by
    simp [checkPresence, hrequired, property, Property.name, hname]
  rw [application, check_bean, ← application, hpresence, List.append_nil]

/-- What is found in an application is what is found in its settings at the top. -/
theorem check_application_shared {before after : List (Value × Value)} {name : Value}
    {text : String}
    (hshared : ∀ e ∈ before ++ after, ∃ p ∈ s.shared, e.1.string? = some p.name)
    (ht : name.scalarText? = some text) (hb : Text.isBlankString text = false) :
    s.application.check σ (.mapping (before ++ (.string "name", name) :: after)) =
      s.toplevel.check σ (.mapping (before ++ after)) := by
  -- Both beans look the key up in their own list; what they find is the same property.
  have hsame : ∀ e ∈ before ++ after,
      s.application.checkProperty σ e = s.toplevel.checkProperty σ e := by
    intro e he
    obtain ⟨p, hp, hk⟩ := hshared e he
    exact checkProperty_shared hp hk
  have hkey : Value.hasKey "name" (before ++ (.string "name", name) :: after) = true := by
    simp [Value.hasKey, Value.isString]
  rw [check_application hkey, check_toplevel, List.flatMap_append, List.flatMap_cons,
    checkProperty_name ht hb, List.nil_append, ← List.flatMap_append]
  exact List.flatMap_congr hsame

/-- What is found in a list of applications, seen from the top of the manifest. -/
theorem check_toplevel_applications {items : List Value} :
    s.toplevel.check σ (.mapping [(.string "applications", .sequence items)]) =
      (s.applications.check σ (.sequence items)).map (.under (.key "applications")) := by
  have hfind : s.toplevel.property? "applications" =
      some (.mk "applications" s.applications false none) := rfl
  rw [check_toplevel, List.flatMap_singleton, checkProperty_of_property rfl hfind]
  rfl

/-- Everything that is found in settings is found below one of them. -/
theorem exists_key_of_mem_check_toplevel {d : Diagnostic}
    (hshared : ∀ e ∈ m, ∃ p ∈ s.shared, e.1.string? = some p.name)
    (hd : d ∈ s.toplevel.check σ (.mapping m)) : ∃ k q, k ≠ "" ∧ d.path = .key k :: q := by
  rw [check_toplevel, List.mem_flatMap] at hd
  obtain ⟨e, he, hd⟩ := hd
  obtain ⟨p, hp, hk⟩ := hshared e he
  rw [checkProperty_of_property hk (property?_toplevel (shared_subset_toplevel hp)),
    List.mem_map] at hd
  obtain ⟨d, -, rfl⟩ := hd
  exact ⟨p.name, d.path, name_ne_empty_of_mem_shared hp, rfl⟩

/-- **Settings are judged alike for all applications and for one.** Let an application consist of a
name that is not blank and of settings under the names of its other properties, except `host` and
`hosts`, and let there be nothing against the other applications. Then what is found in the manifest
is what is found in the settings alone, one by one and in the same order: the same finding, hence of
the same gravity and in the same words, at the place whose text has the place of the application in
front. -/
theorem check_defaults_in_application (s : Settings) (σ : Store)
    (before after : List (Value × Value))
    (hkeys : ∀ e ∈ before ++ after, ∃ p ∈ s.application.properties,
      p.name ∉ ["name", "host", "hosts"] ∧ e.1.string? = some p.name)
    (name : Value) (text : String) (ht : name.scalarText? = some text)
    (hb : Text.isBlankString text = false) (others others' : List Value)
    (hothers : ∀ v ∈ others ++ others', s.application.check σ v = []) :
    let i := others.length
    let application : Value := .mapping (before ++ (.string "name", name) :: after)
    let alone := s.schema.checkDocuments σ [.mapping (before ++ after)]
    s.schema.checkDocuments σ
        [.mapping [(.string "applications", .sequence (others ++ application :: others'))]] =
      alone.map (fun d => ⟨.key "applications" :: .item i :: d.path, d.finding⟩) ∧
    ∀ d ∈ alone, Path.text (.key "applications" :: .item i :: d.path) =
      s!"applications[{i}]." ++ d.path.text := by
  intro i application alone
  have hshared : ∀ e ∈ before ++ after, ∃ p ∈ s.shared, e.1.string? = some p.name := by
    intro e he
    obtain ⟨p, hp, hname, hk⟩ := hkeys e he
    exact ⟨p, mem_shared_iff.mpr ⟨hp, hname⟩, hk⟩
  have hone (v : Value) : s.schema.checkDocuments σ [v] = s.toplevel.check σ v :=
    List.flatMap_singleton ..
  have halone : alone = s.toplevel.check σ (.mapping (before ++ after)) := hone _
  constructor
  · have hlist := check_sequence_of_others (n := s.firstNode + 19) (v := application) hothers
    rw [hone, check_toplevel_applications, applications, hlist,
      check_application_shared hshared ht hb, halone, List.map_map]
    rfl
  · -- A finding in settings lies below one of them, so its text comes behind a point.
    intro d hd
    rw [halone] at hd
    obtain ⟨k, q, hk, hpath⟩ := exists_key_of_mem_check_toplevel hshared hd
    have hplace : s!"applications[{i}]." = Path.text [.key "applications", .item i] ++ "." := by
      change "applications[" ++ toString i ++ ("]" ++ ".") =
        "applications[" ++ toString i ++ "]" ++ "."
      exact (String.append_assoc ..).symm
    have hne : Path.text [.key "applications", .item i] ≠ "" :=
      Step.after_ne_empty (show "applications" ≠ "" by decide) (.item i)
    rw [hpath, hplace]
    exact Path.text_append hne hk

/-- The second of two applications has too few instances and a health check that is deprecated, and
so have the settings alone. -/
theorem check_defaults_in_application_second :
    let st : Settings := {}
    let before : List (Value × Value) := [(.string "instances", .string "0")]
    let after : List (Value × Value) := [(.string "health-check-type", .string "none")]
    let first : Value := .mapping [(.string "name", .string "db")]
    let second : Value := .mapping (before ++ (.string "name", .string "web") :: after)
    let place (k : String) : Path := [.key "applications", .item 1, .key k]
    let faults (place : String → Path) : List Diagnostic :=
      [⟨place "instances", .refused ⟨"0", .belowMinimum 1⟩⟩,
        ⟨place "health-check-type", .deprecated ⟨"none", "process"⟩⟩]
    st.schema.checkDocuments .empty [.mapping (before ++ after)] = faults ([.key ·]) ∧
      st.schema.checkDocuments .empty
        [.mapping [(.string "applications", .sequence [first, second])]] = faults place ∧
      (place "instances").text = "applications[1]." ++ Path.text [.key "instances"] := by
  intro st before after first second place faults
  have hkeys : ∀ e ∈ before ++ after, ∃ p ∈ st.application.properties,
      p.name ∉ ["name", "host", "hosts"] ∧ e.1.string? = some p.name := by
    intro e he
    obtain rfl | rfl : e = (.string "instances", .string "0") ∨
        e = (.string "health-check-type", .string "none") := by simpa [before, after] using he
    · exact ⟨_, List.mem_of_getElem? (i := 8) rfl, by decide, rfl⟩
    · exact ⟨_, List.mem_of_getElem? (i := 19) rfl, by decide, rfl⟩
  have hfirst : ∀ v ∈ [first] ++ [], st.application.check .empty v = [] := by
    intro v hv
    obtain rfl : v = first := by simpa using hv
    rfl
  have halone :
      st.schema.checkDocuments .empty [.mapping (before ++ after)] = faults ([.key ·]) := by decide
  obtain ⟨hfound, hplaces⟩ := check_defaults_in_application st .empty before after hkeys
    (.string "web") "web" rfl rfl [first] [] hfirst
  rw [halone] at hfound hplaces
  have hplace : s!"applications[{1}]." = "applications[1]." := by decide
  exact ⟨halone, hfound, (hplaces _ List.mem_cons_self).trans (congrArg (· ++ _) hplace)⟩

end Manifest.Settings

end TypedManifest
