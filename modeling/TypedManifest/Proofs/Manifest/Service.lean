import TypedManifest.Manifest
import TypedManifest.Proofs.Check.Parts
import TypedManifest.Proofs.Config.Sources
import TypedManifest.Proofs.Hint.Session
import TypedManifest.Proofs.Schema.Completion

/-!
# Services

What is offered for a service comes from a request; what is accepted as one is looked up in what is
known. The two ways never meet in the program, and yet they agree. Once a request has succeeded, the
services accepted are the services offered, for as long as no other request succeeds
(`accepts_service_after_offer`), and the services of a configuration are accepted and offered from
the beginning (`accepts_service_of_serves`). An empty list stands for no list: then any text is
accepted that is not blank.
-/

namespace TypedManifest

/-! ### One of the known values -/

namespace Scalar

/-- A blank text is refused whatever is known; another one is refused exactly when it is not among
the values that are known. -/
theorem readKnown_eq (typeName : String) (known : Option (List String)) (raw : String) :
    readKnown typeName known raw =
      if Text.isBlankString raw = true then .error ⟨raw, .empty⟩
      else if ∀ values ∈ known, raw ∈ values then .ok (.text raw)
      else .error ⟨raw, .unknownValue typeName (known.getD [])⟩ := by
  unfold readKnown requireText
  by_cases hb : Text.isBlankString raw = true
  · simp [hb]
  · cases known with
    | none => simp [hb]
    | some values => by_cases hm : raw ∈ values <;> simp [hb, readMember, hm]

end Scalar

namespace Manifest.Settings

open Session

variable {st : Settings} {source : Source} {σ : Store} {raw : String}

/-- The values that are offered for a service. -/
def offeredServices (st : Settings) (σ : Store) : List String :=
  (st.service.hintsFor σ).1.1.map Hint.value

theorem accepts_service_iff (h : st.services = some source) : st.service.Accepts σ raw ↔
    Text.isBlankString raw = false ∧ ∀ values ∈ σ.known source, raw ∈ values := by
  rw [service, SchemaType.accepts_atomic_iff]
  simp only [Atomic.outcome, h, Option.map_some, Scalar.Parser.parse, Scalar.readKnown_eq]
  split
  · next hb => simp [hb, Except.map]
  · next hb =>
    rw [Bool.not_eq_true] at hb
    split
    · next hm => exact iff_of_true rfl ⟨hb, hm⟩
    · next hm => exact iff_of_false (by simp [Except.map]) fun h => hm h.2

/-- When a list is what is known through the source of services, as long as it is not empty, the
services accepted are those of any list with the same members. -/
theorem accepts_service_iff_mem {values offered : List String} (h : st.services = some source)
    (hk : σ.known source = (some values).filter (!·.isEmpty))
    (hm : ∀ x, x ∈ offered ↔ x ∈ values) : st.service.Accepts σ raw ↔
      Text.isBlankString raw = false ∧ (offered = [] ∨ raw ∈ offered) := by
  have he : offered = [] ↔ values = [] := by simp only [List.eq_nil_iff_forall_not_mem, hm]
  rw [accepts_service_iff h, hk, he, hm]
  cases values with
  | nil => simp
  | cons v vs => simp

theorem hintsFor_service_snd (h : st.services = some source) :
    (st.service.hintsFor σ).2 = (σ.fetch source).2 := by
  simp only [service, SchemaType.hintsFor_snd, h, Option.toList_some, List.foldl_cons,
    List.foldl_nil]

theorem mem_offeredServices {hints : List Hint} (h : st.services = some source)
    (hf : (σ.fetch source).1 = .ok hints) {x : String} :
    x ∈ st.offeredServices σ ↔ x ∈ hints.map Hint.value := by
  rw [offeredServices, service, SchemaType.hintsFor_of_fetch rfl (by rw [h]; rfl) hf,
    Hint.mem_values_firsts]

/-! ### Offered and accepted -/

/-- Once a request for services has succeeded, the services accepted are those that it offered, as
long as no other request succeeds and the provider does not say what it knows. -/
theorem accepts_service_after_offer {s : Session} {h : Handle} {hints : List Hint}
    {ops : List Operation} (hs : s.Reachable) (hh : h ∈ s.handles)
    (hst : st.services = some h.source) (hf : (s.store.fetch h.source).1 = .ok hints) :
    let s' := { s with store := (st.service.hintsFor s.store).2 }
    (∀ r ∈ s'.trace ops, r.handle.origin = h.origin → r.values? = none) →
    ((s'.run ops).store.provider h.source.provider).known = none →
    (st.service.Accepts (s'.run ops).store raw ↔ Text.isBlankString raw = false ∧
      (st.offeredServices s.store = [] ∨ raw ∈ st.offeredServices s.store)) := by
  intro s' hfails hp
  have hσ : s'.store = (s.store.fetch h.source).2 := hintsFor_service_snd hst
  have hi : s'.Inv := hs.inv.clone (List.nil_subset _) (by rw [hσ, Store.size_fetch])
    (List.append_nil _).symm
  have hk : h.kin ∈ s'.kins := List.mem_map_of_mem hh
  have hnow : s'.store.snapshot h.source.snapshot = some (hints.map Hint.value) := by
    rw [hσ, Store.snapshot_fetch, if_pos rfl, Store.valuesFor, hf]
    rfl
  have hthen : (s'.run ops).store.snapshot h.source.snapshot = some (hints.map Hint.value) :=
    (snapshot_run_of_fails hi ops (s'.kins_subset_kins_run ops hk) hfails).trans hnow
  refine accepts_service_iff_mem hst ?_ fun x => mem_offeredServices hst hf
  rw [Store.known, hp, hthen]
  rfl

/-- The services of a configuration are offered and accepted at any time. -/
theorem accepts_service_of_serves {values : List String} (hst : st.services = some source)
    (hv : Config.Serves σ source values) : st.service.Accepts σ raw ↔
      Text.isBlankString raw = false ∧
        (st.offeredServices σ = [] ∨ raw ∈ st.offeredServices σ) := by
  have hf : (σ.fetch source).1 = .ok (values.map ({ value := · })) := by
    rw [Store.fetch_eq_ok_iff, Store.answerTo, hv.answer, Answer.inTime?, if_pos (Nat.zero_le _)]
  have hm (x : String) : x ∈ st.offeredServices σ ↔ x ∈ values := by
    rw [mem_offeredServices hst hf]
    simp [Function.comp_def]
  refine accepts_service_iff_mem hst ?_ hm
  rw [Store.known, hv.known]
  rfl

end Manifest.Settings

/-- A run takes nothing away from a source that stands for a list, unless its provider says
something else. -/
theorem Config.Serves.run {s : Session} {source : Source} {values : List String}
    {ops : List Operation} (h : Serves s.store source values)
    (hops : ∀ known, .setKnown source.provider known ∉ ops) :
    Serves (s.run ops).store source values := by
  constructor
  · exact Nat.lt_of_lt_of_le h.provider_lt (s.size_le_size_run ops)
  · rw [s.known_provider_run ops h.provider_lt hops]
    exact h.known
  · rw [s.answer_provider_run ops h.provider_lt]
    exact h.answer

namespace Manifest.Settings

open Session

/-- **The services that are accepted are the services that are offered.** In any session, after a
request for services has succeeded through the source of a schema: for as long as no other request
through a clone of the source succeeds, whatever else happens, and the provider does not say what it
knows. With the services of a configuration: always, whatever happens, as long as the provider goes
on to say what it knows. -/
theorem service_agrees :
    (∀ s : Session, s.Reachable → ∀ h ∈ s.handles, ∀ st : Settings, st.services = some h.source →
      ∀ hints, (s.store.fetch h.source).1 = .ok hints →
      let s' := { s with store := (st.service.hintsFor s.store).2 }
      ∀ ops, (∀ r ∈ s'.trace ops, r.handle.origin = h.origin → r.values? = none) →
        ((s'.run ops).store.provider h.source.provider).known = none →
        ∀ raw, st.service.Accepts (s'.run ops).store raw ↔ Text.isBlankString raw = false ∧
          (st.offeredServices s.store = [] ∨ raw ∈ st.offeredServices s.store)) ∧
    ∀ c : Config, c.services.isSome = true → ∀ folder σ handles,
      let st := (c.settings folder σ).1
      let s : Session := ⟨(c.settings folder σ).2, handles⟩
      ∀ ops, (∀ source ∈ st.services, ∀ known, .setKnown source.provider known ∉ ops) →
        ∀ raw, st.service.Accepts (s.run ops).store raw ↔ Text.isBlankString raw = false ∧
          (st.offeredServices (s.run ops).store = [] ∨
            raw ∈ st.offeredServices (s.run ops).store) := by
  constructor
  · intro s hs h hh st hst hints hf s' ops hfails hp raw
    exact accepts_service_after_offer hs hh hst hf hfails hp
  · intro c hc folder σ handles st s ops hops raw
    obtain ⟨values, hvalues⟩ := Option.isSome_iff_exists.mp hc
    obtain ⟨source, hst, hv⟩ := Config.serves_services folder σ hvalues
    exact accepts_service_of_serves hst (hv.run (s := s) (hops source hst))

/-- A request for services succeeds, one is answered too late and one fails; and a configuration
names a service that nobody asks for. -/
theorem service_agrees_wavering :
    let st : Settings := { services := some ⟨0, 0, 2000⟩ }
    let s := empty.run [.create wavering]
    let s' := { s with store := (st.service.hintsFor s.store).2 }
    let c : Config := { services := some ["mysql"] }
    let σ := (c.settings 0 .empty).2
    st.service.Accepts (s'.run [.fetch 0, .fetch 0]).store "mysql" ∧
      ¬ st.service.Accepts (s'.run [.fetch 0, .fetch 0]).store "redis" ∧
      (c.settings 0 .empty).1.service.Accepts σ "mysql" := by
  intro st s s' c σ
  obtain ⟨hsession, hconfig⟩ := service_agrees
  have hfails : ∀ r ∈ s'.trace [.fetch 0, .fetch 0], r.values? = none := by
    intro r hr
    have hr : r ∈ [⟨⟨⟨0, 0, 2000⟩, 0⟩, .error (.timedOut "platform" 2000)⟩,
      ⟨⟨⟨0, 0, 2000⟩, 0⟩, .error (.unavailable "platform" "connection refused")⟩] := hr
    simp only [List.mem_cons, List.not_mem_nil, or_false] at hr
    obtain rfl | rfl := hr <;> rfl
  have hagree := hsession s ⟨_, rfl⟩ ⟨⟨0, 0, 2000⟩, 0⟩ (List.mem_cons_self ..) st rfl
    [{ value := "mysql" }] rfl [.fetch 0, .fetch 0] (fun r hr _ => hfails r hr) rfl
  refine ⟨(hagree "mysql").mpr ⟨by decide, .inr (List.mem_cons_self ..)⟩, fun h => ?_, ?_⟩
  · obtain ⟨-, h | h⟩ := (hagree "redis").mp h
    · nomatch h
    · exact absurd (List.mem_singleton.mp h) (by decide)
  · have hagree := hconfig c rfl 0 .empty [] [] (fun _ _ _ => nofun) "mysql"
    exact hagree.mpr ⟨by decide, .inr (List.mem_cons_self ..)⟩

end Manifest.Settings

end TypedManifest
