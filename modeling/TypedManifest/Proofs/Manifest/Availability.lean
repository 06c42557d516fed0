import TypedManifest.Proofs.Manifest.Service

/-!
# Services that may not be available

What is accepted as a service depends on how much is known of the services at the moment. A schema
may have no source for them at all; the source may know an empty list, may never have been asked, or
may have failed whenever it was; or there may be a list. With a source, a blank text is refused
whatever is known, and any other text is refused only for a list that it is not in
(`checkScalar_service_by_availability`).

Without a source the type of services has no rule for its texts, and then a blank text is a service
like any other. It is the source that brings the rule, not the type.
-/

namespace TypedManifest

open Scalar

/-! ### What a session knows -/

/-- What is known through a handle at the end of a run: what its provider says, or else what the
last request through a clone brought, but no empty list. -/
theorem Session.known_run_eq_some_iff (ops : List Operation) {h : Handle}
    (hh : h ∈ (empty.run ops).handles) {values : List String} :
    (empty.run ops).store.known h.source = some values ↔ values ≠ [] ∧
      (((empty.run ops).store.provider h.source.provider).known = some values ∨
        ((empty.run ops).store.provider h.source.provider).known = none ∧
          lastValues (·.origin = h.origin) (empty.trace ops) = some values) := by
  have hsnapshot : (empty.run ops).store.snapshot h.source.snapshot =
      lastValues (·.origin = h.origin) (empty.trace ops) :=
    (snapshot_run inv_empty ops (List.mem_map_of_mem hh)).trans Option.or_none
  rw [Store.known_eq_some_iff, hsnapshot]

namespace Manifest.Settings

variable {st : Settings} {source : Source} {σ : Store} {raw : String}

/-! ### With a source and without -/

/-- Without a source the type of services has no rule. -/
theorem checkScalar_service_of_none (h : st.services = none) :
    st.service.checkScalar σ raw = .ok ⟨.text raw, none⟩ := by
  simp [service, SchemaType.checkScalar, SchemaType.deprecation?, SchemaType.replacement?,
    SchemaType.enumeration?, h]

/-- With a source the rule is to be one of the known values. No service is deprecated. -/
theorem checkScalar_service_of_some (h : st.services = some source) :
    st.service.checkScalar σ raw =
      (readKnown "Service" (σ.known source) raw).map (⟨·, none⟩) := by
  simp [service, SchemaType.checkScalar, SchemaType.deprecation?, SchemaType.replacement?,
    SchemaType.enumeration?, h, Parser.parse]

/-- A text that is not blank is refused for a list that it is not in, and for nothing else. -/
theorem accepts_service_iff_of_not_blank (hb : Text.isBlankString raw = false) :
    st.service.Accepts σ raw ↔
      ∀ source ∈ st.services, ∀ values, σ.known source = some values → raw ∈ values := by
  cases hs : st.services with
  | none =>
    have haccepts : st.service.Accepts σ raw := ⟨_, checkScalar_service_of_none hs⟩
    exact iff_of_true haccepts fun source hsource => nomatch hsource
  | some source =>
    rw [accepts_service_iff hs]
    constructor
    · rintro ⟨-, hmem⟩ source' hsource' values hknown
      obtain rfl : source = source' := Option.some.inj hsource'
      exact hmem values hknown
    · intro hmem
      exact ⟨hb, fun values hknown => hmem source rfl values hknown⟩

/-! ### Every state of the source -/

/-- **What is accepted as a service, however much is known.** With a source a blank text is refused
as empty. A text that is not blank is accepted exactly when it is in the list that is known, or none
is; through the source of a session that is the list that the provider says it knows, or else the
list of the last request that succeeded, as long as it is not empty. Without a source every text is
accepted as it stands. -/
theorem checkScalar_service_by_availability :
    (∀ (st : Settings) (σ : Store) (raw : String), st.services ≠ none →
      Text.isBlankString raw = true → st.service.checkScalar σ raw = .error ⟨raw, .empty⟩) ∧
    (∀ (st : Settings) (σ : Store) (raw : String), Text.isBlankString raw = false →
      (st.service.Accepts σ raw ↔
        ∀ source ∈ st.services, ∀ values, σ.known source = some values → raw ∈ values)) ∧
    (∀ (ops : List Operation), let s := Session.empty.run ops
      ∀ h ∈ s.handles, ∀ st : Settings, st.services = some h.source →
      ∀ raw, Text.isBlankString raw = false →
        (st.service.Accepts s.store raw ↔ ∀ values, values ≠ [] →
          ((s.store.provider h.source.provider).known = some values ∨
            (s.store.provider h.source.provider).known = none ∧
              lastValues (·.origin = h.origin) (Session.empty.trace ops) = some values) →
          raw ∈ values)) ∧
    ∀ (st : Settings) (σ : Store) (raw : String), st.services = none →
      st.service.checkScalar σ raw = .ok ⟨.text raw, none⟩ := by
  refine ⟨?blank, fun st σ raw hb => accepts_service_iff_of_not_blank hb, ?session,
    fun st σ raw h => checkScalar_service_of_none h⟩
  case blank =>
    intro st σ raw hs hb
    obtain ⟨source, hsource⟩ := Option.ne_none_iff_exists'.mp hs
    rw [checkScalar_service_of_some hsource, readKnown_eq, if_pos hb]
    rfl
  case session =>
    intro ops s h hh st hst raw hb
    have hknown : ∀ values, s.store.known h.source = some values ↔ _ :=
      fun values => Session.known_run_eq_some_iff ops hh
    rw [accepts_service_iff_of_not_blank hb, hst]
    constructor
    · intro hmem values hne hvalues
      exact hmem h.source rfl values ((hknown values).mpr ⟨hne, hvalues⟩)
    · intro hmem source hsource values hvalues
      obtain rfl : h.source = source := Option.some.inj hsource
      obtain ⟨hne, hvalues⟩ := (hknown values).mp hvalues
      exact hmem values hne hvalues

/-- A source is asked three times; the first request succeeds, the second is answered too late and
the third fails. A schema without a source stands beside it. -/
theorem checkScalar_service_by_availability_wavering :
    let st : Settings := { services := some ⟨0, 0, 2000⟩ }
    let unasked := (Session.empty.run [.create Session.wavering]).store
    let asked := (Session.empty.run [.create Session.wavering, .fetch 0, .fetch 0, .fetch 0]).store
    st.service.checkScalar asked " " = .error ⟨" ", .empty⟩ ∧
      st.service.Accepts unasked "redis" ∧ ¬ st.service.Accepts asked "redis" ∧
      st.service.Accepts asked "mysql" ∧
      ({} : Settings).service.checkScalar asked " " = .ok ⟨.text " ", none⟩ := by
  intro st unasked asked
  obtain ⟨hblank, hlist, hsession, hnone⟩ := checkScalar_service_by_availability
  have hasked (raw : String) := hsession [.create Session.wavering, .fetch 0, .fetch 0, .fetch 0]
    ⟨⟨0, 0, 2000⟩, 0⟩ (List.mem_cons_self ..) st rfl raw
  refine ⟨hblank st asked " " (by simp [st]) (by decide), (hlist st unasked "redis" rfl).mpr ?_,
    fun h => ?_, (hasked "mysql" rfl).mpr ?_, hnone {} asked " " rfl⟩
  · rintro source hsource values hvalues
    obtain rfl := Option.some.inj hsource
    nomatch hvalues
  · have hmem := (hasked "redis" rfl).mp h ["mysql"] (by decide) (.inr ⟨rfl, rfl⟩)
    exact absurd (List.mem_singleton.mp hmem) (by decide)
  · rintro values - (hprovider | ⟨-, hlast⟩)
    · nomatch hprovider
    · obtain rfl : ["mysql"] = values := Option.some.inj hlast
      exact List.mem_cons_self

/-- The blank text is not refused by every schema: without a source it is a service. -/
theorem service_blank_not_always_refused :
    ¬ ∀ (st : Settings) (σ : Store) (raw : String),
      (Text.isBlankString raw = true → st.service.checkScalar σ raw = .error ⟨raw, .empty⟩) ∧
      (Text.isBlankString raw = false → (st.service.Accepts σ raw ↔
        ∀ source ∈ st.services, ∀ values, σ.known source = some values → raw ∈ values)) := by
  intro h
  have hrefused : ({} : Settings).service.checkScalar .empty "" = .error ⟨"", .empty⟩ :=
    (h {} .empty "").1 rfl
  have haccepted : ({} : Settings).service.checkScalar .empty "" = .ok ⟨.text "", none⟩ := rfl
  exact nomatch haccepted.symm.trans hrefused

end Manifest.Settings

end TypedManifest
