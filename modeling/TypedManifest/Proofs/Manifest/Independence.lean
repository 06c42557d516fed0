import Mathlib.Data.List.Forall2
import TypedManifest.Proofs.Check.Likeness
import TypedManifest.Proofs.Manifest.Service

/-!
# What a check of manifests depends on

The schema of manifests has three sources of hints, but a check looks only at the services that are
known. Buildpacks and domains are never checked; the rule for routes does look at the domains that
are known, yet only to say which of them a host lies under, never to refuse a route. So two schemas
through whose sources the same services are known find the same in every stream of documents
(`checkDocuments_eq`), whatever else they were made of and whatever happened to them.
-/

namespace TypedManifest

open Check Yaml

/-- A text is a route or not whatever domains are known, as long as the domain of a route need not
be known. -/
theorem Scalar.Route.map_read_eq {known : Option (List String)} {raw : String} :
    (Route.read known false raw).map (fun _ => ()) = match Route.split (Text.trim raw.toList) with
      | .error cause => .error ⟨raw, cause⟩
      | .ok _ => .ok () := by
  unfold Route.read
  cases Route.split (Text.trim raw.toList) with
  | error cause => rfl
  | ok route => simp [Except.map]

namespace Manifest.Settings

open SchemaType

/-! ### Two schemas side by side -/

section Like

variable {R : List Diagnostic → List Diagnostic → Prop} {σ τ : Store} {s t : Settings}

/-- The rule for routes refuses the same texts whatever is known. -/
theorem like_route (hR : Carries R) : Like R σ τ s.route t.route := by
  have htext : Like R σ τ s.routeText t.routeText := by
    refine .of_outcome hR rfl rfl fun text => ?_
    have hmap (x : Except Scalar.Error Scalar.Route) :
        (x.map Scalar.Value.route).map (fun _ => ()) = x.map fun _ => () := by cases x <;> rfl
    simp only [Atomic.outcome, Scalar.Parser.parse, hmap, Scalar.Route.map_read_eq]
  exact .bean (.cons (.mk htext) .nil)

/-- The properties of applications are alike when services are: no other type looks at a source. -/
theorem like_properties (hR : Carries R) (hservice : Like R σ τ s.service t.service) :
    List.Forall₂ (LikeProperty R σ τ) s.properties t.properties := by
  have hpath : Like R σ τ s.path t.path := .of_outcome hR rfl rfl fun _ => rfl
  have hbuildpack : Like R σ τ s.buildpack t.buildpack := .of_outcome hR rfl rfl fun _ => rfl
  have hdomain : Like R σ τ s.domain t.domain := .of_outcome hR rfl rfl fun _ => rfl
  have hboolean : Like R σ τ s.boolean t.boolean := .of_outcome hR rfl rfl fun _ => rfl
  have hfilled : Like R σ τ s.filledText t.filledText := .of_outcome hR rfl rfl fun _ => rfl
  have hany : Like R σ τ s.anyText t.anyText := .of_outcome hR rfl rfl fun _ => rfl
  have hmemory : Like R σ τ s.memory t.memory := .of_outcome hR rfl rfl fun _ => rfl
  have hhealth : Like R σ τ s.healthCheck t.healthCheck := .of_outcome hR rfl rfl fun _ => rfl
  have hcount : Like R σ τ s.instanceCount t.instanceCount := .of_outcome hR rfl rfl fun _ => rfl
  have hseconds : Like R σ τ s.seconds t.seconds := .of_outcome hR rfl rfl fun _ => rfl
  have hroutes : Like R σ τ s.routes t.routes := .sequence (like_route hR)
  have hservices : Like R σ τ s.serviceList t.serviceList := .sequence hservice
  exact .cons (.mk hbuildpack) <| .cons (.mk hany) <| .cons (.mk hmemory) <| .cons (.mk hdomain) <|
    .cons (.mk (.sequence hdomain)) <| .cons (.mk (.map hany hany)) <| .cons (.mk hany) <|
    .cons (.mk (.sequence hany)) <| .cons (.mk hcount) <| .cons (.mk hmemory) <|
    .cons (.mk hfilled) <| .cons (.mk hboolean) <| .cons (.mk hboolean) <| .cons (.mk hpath) <|
    .cons (.mk hboolean) <| .cons (.mk hroutes) <| .cons (.mk hservices) <| .cons (.mk hany) <|
    .cons (.mk hseconds) <| .cons (.mk hhealth) <| .cons (.mk hfilled) .nil

/-- Two schemas of manifests are alike when their types of services are. -/
theorem like_toplevel (hR : Carries R) (hservice : Like R σ τ s.service t.service) :
    Like R σ τ s.toplevel t.toplevel := by
  have hproperties := like_properties hR hservice
  have hshared : List.Forall₂ (LikeProperty R σ τ) s.shared t.shared := by
    refine List.rel_filter ?_ hproperties
    rintro _ _ ⟨_⟩
    rfl
  have hany : Like R σ τ s.anyText t.anyText := .of_outcome hR rfl rfl fun _ => rfl
  exact .bean (.cons (.mk (.sequence (.bean hproperties))) (.cons (.mk hany) hshared))

end Like

/-- Services are refused for what is known of them, and nothing else. -/
theorem like_service {σ τ : Store} {s t : Settings}
    (h : s.services.map σ.known = t.services.map τ.known) : Like Eq σ τ s.service t.service := by
  refine .of_outcome .eq rfl rfl fun text => ?_
  cases hs : s.services <;> cases ht : t.services <;> simp only [hs, ht] at h
  case none.none => rfl
  case none.some | some.none => nomatch h
  case some.some source source' =>
    have h : σ.known source = τ.known source' := by simpa using h
    simp only [Atomic.outcome, Option.map_some, Scalar.Parser.parse, h]

/-! ### Checks that cannot be told apart -/

/-- Schemas through whose sources the same services are known find the same. -/
theorem checkDocuments_eq {σ τ : Store} {s t : Settings}
    (h : s.services.map σ.known = t.services.map τ.known) (documents : List Value) :
    s.schema.checkDocuments σ documents = t.schema.checkDocuments τ documents :=
  Schema.checkDocuments_like (S := s.schema) (T := t.schema) .eq rfl
    (like_toplevel .eq (like_service h)) documents

end Manifest.Settings

/-- What is known of the services of a configuration depends on their list alone. -/
theorem Config.known_services {c c' : Config} (h : c.services = c'.services) (folder folder' : Nat)
    (σ τ : Store) : (c.settings folder σ).1.services.map (c.settings folder σ).2.known =
      (c'.settings folder' τ).1.services.map (c'.settings folder' τ).2.known := by
  cases hc : c.services with
  | none =>
    rw [services_settings_of_none hc, services_settings_of_none (h ▸ hc)]
    rfl
  | some values =>
    obtain ⟨source, hs, hv⟩ := serves_services folder σ hc
    obtain ⟨source', hs', hv'⟩ := serves_services folder' τ (h ▸ hc)
    rw [hs, hs', Option.map_some, Option.map_some, Store.known, Store.known, hv.known, hv'.known]
    rfl

namespace Manifest.Settings

open Session

/-- **Nothing but the known services bears on a check of manifests.** Two schemas, each with a store
of its own, find the same in any documents when the same services are known through their sources,
or neither has one. So the buildpacks and the domains may be any others, or change; whatever happens
in a session after a schema was made, short of a request for services that succeeds and of a
provider of services that says something else, a check finds what it found before; and
configurations with one list of services check alike. -/
theorem check_depends_on_services :
    (∀ (st st' : Settings) (σ τ : Store), st.services.map σ.known = st'.services.map τ.known →
      ∀ documents, st.schema.checkDocuments σ documents = st'.schema.checkDocuments τ documents) ∧
    (∀ s : Session, s.Reachable → ∀ h ∈ s.handles, ∀ st st' : Settings,
      st.services = some h.source → st'.services = some h.source →
      ∀ ops, (∀ r ∈ s.trace ops, r.handle.origin = h.origin → r.values? = none) →
        (∀ known, .setKnown h.source.provider known ∉ ops) →
        ∀ documents, st'.schema.checkDocuments (s.run ops).store documents =
          st.schema.checkDocuments s.store documents) ∧
    ∀ c c' : Config, c.services = c'.services → ∀ folder folder' σ τ documents,
      (c.settings folder σ).1.schema.checkDocuments (c.settings folder σ).2 documents =
        (c'.settings folder' τ).1.schema.checkDocuments (c'.settings folder' τ).2 documents := by
  refine ⟨fun st st' σ τ h => checkDocuments_eq h, ?_, ?_⟩
  · intro s hs h hh st st' hst hst' ops hfails hops
    have hknown := known_run_of_fails hs.inv ops hh hfails hops
    exact checkDocuments_eq (by rw [hst, hst', Option.map_some, Option.map_some, hknown])
  · intro c c' h folder folder' σ τ
    exact checkDocuments_eq (Config.known_services h folder folder' σ τ)

/-- A service is fetched; then domains are, and services are not to be had. A configuration that
gives the same service, with domains or without, finds the same. -/
theorem check_depends_on_services_wavering :
    let s := empty.run [.create wavering, .create wavering, .fetch 0]
    let st : Settings := { services := some ⟨0, 0, 2000⟩ }
    let st' : Settings := { services := some ⟨0, 0, 2000⟩, domains := some ⟨1, 1, 2000⟩ }
    let c : Config := { services := some ["mysql"] }
    let c' : Config := { services := some ["mysql"], domains := some ["example.com"] }
    let documents : List Value := [.mapping [(.string "services", .sequence [.string "redis"])]]
    let found := st.schema.checkDocuments s.store documents
    st'.schema.checkDocuments (s.run [.fetch 1, .fetch 0]).store documents = found ∧
      (c.settings 0 .empty).1.schema.checkDocuments (c.settings 0 .empty).2 documents = found ∧
      (c'.settings 0 .empty).1.schema.checkDocuments (c'.settings 0 .empty).2 documents =
        found := by
  intro s st st' c c' documents found
  obtain ⟨hsame, hsession, hconfig⟩ := check_depends_on_services
  have hfails : ∀ r ∈ s.trace [.fetch 1, .fetch 0], r.handle.origin = 0 → r.values? = none := by
    intro r hr ho
    have hr : r ∈ [⟨⟨⟨1, 1, 2000⟩, 1⟩, .ok [{ value := "mysql" }]⟩,
      ⟨⟨⟨0, 0, 2000⟩, 0⟩, .error (.timedOut "platform" 2000)⟩] := hr
    simp only [List.mem_cons, List.not_mem_nil, or_false] at hr
    obtain rfl | rfl := hr
    · nomatch ho
    · rfl
  have hc := hsame (c.settings 0 .empty).1 st (c.settings 0 .empty).2 s.store rfl documents
  refine ⟨?_, hc, (hconfig c' c rfl 0 0 .empty .empty documents).trans hc⟩
  exact hsession s ⟨_, rfl⟩ ⟨⟨0, 0, 2000⟩, 0⟩ (List.mem_cons_self ..) st st' rfl rfl _ hfails
    (by simp) documents

end Manifest.Settings

end TypedManifest
