import TypedManifest.Proofs.Check.Likeness
import TypedManifest.Proofs.Manifest.Availability
import TypedManifest.Proofs.Manifest.Independence

/-!
# Knowing more of the services

How much is known of the services decides which of them are refused. As long as a list is known, a
longer one takes findings away and brings none: what is left stands at the same places and is as
grave as before, though it names the longer list. Knowing nothing is not the least knowledge but the
most indulgent: then a service is refused for being blank at most, and without a source for nothing
at all. What a list brings beyond that are refusals of services that are not in it
(`check_monotone_in_services`).

The findings under two states of knowledge are laid side by side part by part, as in
`SchemaType.Like`. Two relations between findings are laid through the checks: one that forgets the
words of a finding, and one, `Adds`, that keeps them and tells what sort of findings are put in.
-/

namespace TypedManifest

open Check Yaml

/-! ### Findings beside one another -/

namespace Check

/-- How grave a finding is, and where. -/
def Diagnostic.seat (d : Diagnostic) : Severity × Path := (d.severity, d.path)

/-- The second findings are the first ones with findings of one sort put in. -/
inductive Adds (P : Finding → Prop) : List Diagnostic → List Diagnostic → Prop where
  /-- Nothing is found. -/
  | nil : Adds P [] []
  /-- A finding of both. -/
  | keep (d : Diagnostic) {found found' : List Diagnostic} :
      Adds P found found' → Adds P (d :: found) (d :: found')
  /-- A finding that is put in. -/
  | more {d : Diagnostic} {found found' : List Diagnostic} :
      P d.finding → Adds P found found' → Adds P found (d :: found')

variable {P : Finding → Prop} {found found' : List Diagnostic}

theorem Adds.sublist (h : Adds P found found') : found.Sublist found' := by
  induction h with
  | nil => exact .slnil
  | keep d _ ih => exact ih.cons_cons d
  | more _ _ ih => exact ih.cons _

theorem carries_adds (P : Finding → Prop) : Carries (Adds P) where
  refl found := by
    induction found with
    | nil => exact .nil
    | cons d found ih => exact .keep d ih
  append h h' := by
    induction h with
    | nil => exact h'
    | keep d _ ih => exact .keep d ih
    | more hd _ ih => exact .more hd ih
  under step h := by
    induction h with
    | nil => exact .nil
    | keep d _ ih => exact .keep (d.under step) ih
    | more hd _ ih => exact .more hd ih

/-- The seats of the second findings are seats of the first, in the same order. -/
def SeatsIn (found found' : List Diagnostic) : Prop :=
  (found'.map Diagnostic.seat).Sublist (found.map Diagnostic.seat)

theorem map_seat_under (step : Step) (found : List Diagnostic) :
    (found.map (Diagnostic.under step)).map Diagnostic.seat =
      (found.map Diagnostic.seat).map (Prod.map id (step :: ·)) := by
  rw [List.map_map, List.map_map]
  rfl

theorem carries_seatsIn : Carries SeatsIn where
  refl found := List.Sublist.refl _
  append h h' := by
    rw [SeatsIn, List.map_append, List.map_append]
    exact h.append h'
  under step h := by
    rw [SeatsIn, map_seat_under, map_seat_under]
    exact h.map _

/-- The finding is that a text is not among the services that are known. -/
def Finding.IsUnknownService (known : List String) (f : Finding) : Prop :=
  ∃ raw, raw ∉ known ∧ f = .refused ⟨raw, .unknownValue "Service" known⟩

end Check

namespace Manifest.Settings

open SchemaType

variable {st st' : Settings} {σ τ : Store} {known known' : List String} {text : String}

/-! ### Services -/

/-- What is found in a text that is not among the services of a list, if one is known. -/
def unlisted (known : Option (List String)) (text : String) : List Diagnostic :=
  if ∀ values ∈ known, text ∈ values then []
  else [.here (.refused ⟨text, .unknownValue "Service" (known.getD [])⟩)]

theorem unlisted_none : unlisted none text = [] := rfl

theorem unlisted_of_mem (h : text ∈ known) : unlisted (some known) text = [] :=
  if_pos fun _ hvalues => Option.some.inj hvalues ▸ h

theorem unlisted_of_not_mem (h : text ∉ known) : unlisted (some known) text =
    [.here (.refused ⟨text, .unknownValue "Service" known⟩)] :=
  if_neg fun hmem => h (hmem known rfl)

/-- What is found in a text that is to be a service, when there is a source. -/
theorem checkText_service {known : Option (List String)}
    (h : st.services.map σ.known = some known) (text : String) : st.service.checkText σ text =
      if Text.isBlankString text = true then [.here (.refused ⟨text, .empty⟩)]
      else unlisted known text := by
  obtain ⟨source, hsource, rfl⟩ := Option.map_eq_some_iff.mp h
  rw [checkText, checkScalar_service_of_some hsource, Scalar.readKnown_eq, unlisted]
  by_cases hblank : Text.isBlankString text = true
  · simp only [if_pos hblank]
    rfl
  by_cases hmem : ∀ values ∈ σ.known source, text ∈ values
  · simp only [if_neg hblank, if_pos hmem]
    rfl
  · simp only [if_neg hblank, if_neg hmem]
    rfl

theorem checkText_service_of_none (h : st.services = none) : st.service.checkText σ text = [] := by
  rw [checkText, checkScalar_service_of_none h]
  rfl

/-- With a source on either side a blank text is refused alike, and only the lists make a
difference. -/
theorem like_service_of_unlisted {R : List Diagnostic → List Diagnostic → Prop} (hR : Carries R)
    {known known' : Option (List String)} (h : st.services.map σ.known = some known)
    (h' : st'.services.map τ.known = some known')
    (hlists : ∀ text, R (unlisted known text) (unlisted known' text)) :
    Like R σ τ st.service st'.service := by
  refine .atomic rfl fun text => ?_
  change R (st.service.checkText σ text) (st'.service.checkText τ text)
  rw [checkText_service h, checkText_service h']
  split
  · exact hR.refl _
  · exact hlists text

/-- A longer list refuses fewer services. -/
theorem like_service_of_subset (h : st.services.map σ.known = some (some known))
    (h' : st'.services.map τ.known = some (some known')) (hsub : known ⊆ known') :
    Like SeatsIn σ τ st.service st'.service := by
  refine like_service_of_unlisted carries_seatsIn h h' fun text => ?_
  by_cases hmem' : text ∈ known'
  · rw [unlisted_of_mem hmem']
    exact List.nil_sublist _
  · -- The two refusals name different lists, at the same seat.
    have hmem : text ∉ known := fun hmem => hmem' (hsub hmem)
    rw [unlisted_of_not_mem hmem, unlisted_of_not_mem hmem']
    exact List.Sublist.refl _

/-- A list brings refusals of the services that are not in it. -/
theorem like_service_of_nothing (h : st.services.map σ.known = some none)
    (h' : st'.services.map τ.known = some (some known)) :
    Like (Adds (Finding.IsUnknownService known)) σ τ st.service st'.service := by
  refine like_service_of_unlisted (carries_adds _) h h' fun text => ?_
  rw [unlisted_none]
  by_cases hmem : text ∈ known
  · rw [unlisted_of_mem hmem]
    exact .nil
  · rw [unlisted_of_not_mem hmem]
    exact .more ⟨text, hmem, rfl⟩ .nil

/-- Without a source nothing is found in a service, whatever is found with one. -/
theorem like_service_of_none (h : st.services = none) :
    Like (Adds fun _ => True) σ τ st.service st'.service := by
  refine .atomic rfl fun text => ?_
  change Adds _ (st.service.checkText σ text) (st'.service.checkText τ text)
  rw [checkText_service_of_none h]
  generalize st'.service.checkText τ text = found
  induction found with
  | nil => exact .nil
  | cons d found ih => exact .more trivial ih

/-! ### Whole streams -/

theorem seatsIn_checkDocuments (h : st.services.map σ.known = some (some known))
    (h' : st'.services.map τ.known = some (some known')) (hsub : known ⊆ known')
    (documents : List Value) :
    SeatsIn (st.schema.checkDocuments σ documents) (st'.schema.checkDocuments τ documents) :=
  Schema.checkDocuments_like (S := st.schema) (T := st'.schema) carries_seatsIn rfl
    (like_toplevel carries_seatsIn (like_service_of_subset h h' hsub)) documents

theorem adds_checkDocuments (h : st.services.map σ.known = some none)
    (h' : st'.services.map τ.known = some (some known)) (documents : List Value) :
    Adds (Finding.IsUnknownService known) (st.schema.checkDocuments σ documents)
      (st'.schema.checkDocuments τ documents) :=
  Schema.checkDocuments_like (S := st.schema) (T := st'.schema) (carries_adds _) rfl
    (like_toplevel (carries_adds _) (like_service_of_nothing h h')) documents

/-- No check finds less than one without a source. -/
theorem sublist_checkDocuments_of_none (h : st.services = none) (documents : List Value) :
    (st.schema.checkDocuments σ documents).Sublist (st'.schema.checkDocuments τ documents) :=
  (Schema.checkDocuments_like (S := st.schema) (T := st'.schema) (carries_adds _) rfl
    (like_toplevel (carries_adds _) (like_service_of_none h)) documents).sublist

/-- Where nothing is known and there is a source, nothing is known through it. -/
theorem map_known_of_bind (h : st.services.bind σ.known = none) (hs : st.services ≠ none) :
    st.services.map σ.known = some none := by
  obtain ⟨source, hsource⟩ := Option.ne_none_iff_exists'.mp hs
  rw [hsource] at h ⊢
  exact congrArg some h

/-- Under a list all is found that is found while nothing is known. -/
theorem sublist_checkDocuments (h : st.services.bind σ.known = none)
    (h' : st'.services.map τ.known = some (some known)) (documents : List Value) :
    (st.schema.checkDocuments σ documents).Sublist (st'.schema.checkDocuments τ documents) := by
  by_cases hs : st.services = none
  · exact sublist_checkDocuments_of_none hs documents
  · exact (adds_checkDocuments (map_known_of_bind h hs) h' documents).sublist

end Manifest.Settings

/-! ### Configurations -/

namespace Config

/-- What is known of the services of a configuration: the list it gives, if that is not empty. -/
theorem known_of_services {c : Config} {values : List String} (h : c.services = some values)
    (folder : Nat) (σ : Store) :
    (c.settings folder σ).1.services.map (c.settings folder σ).2.known =
      some ((some values).filter (!·.isEmpty)) := by
  obtain ⟨source, hsource, hv⟩ := serves_services folder σ h
  rw [hsource, Option.map_some, Store.known, hv.known]
  rfl

/-- What a check finds when a configuration gives these services, or none. -/
def checkGiven (c : Config) (services : Option (List String)) (folder : Nat) (σ : Store)
    (documents : List Value) : List Diagnostic :=
  let c := { c with services }
  (c.settings folder σ).1.schema.checkDocuments (c.settings folder σ).2 documents

end Config

namespace Manifest.Settings

/-- **Knowing more of the services.** Let two lists of services be known in two states of two
schemas, whatever else they are made of. If the one list is part of the other, the findings under
the longer list have their seats among those under the shorter one, in the same order. All that is
found without a source, or while nothing is known through it, is found under any list too, in the
same words; and with a source, all that a list brings beyond that are refusals of services that are
not in the list. So it is with the lists that a configuration gives, of which the empty one is no
knowledge. -/
theorem check_monotone_in_services :
    (∀ (st st' : Settings) (σ τ : Store) (known known' : List String),
      st.services.map σ.known = some (some known) → st'.services.map τ.known = some (some known') →
      known ⊆ known' → ∀ documents,
        ((st'.schema.checkDocuments τ documents).map Diagnostic.seat).Sublist
          ((st.schema.checkDocuments σ documents).map Diagnostic.seat)) ∧
    (∀ (st st' : Settings) (σ τ : Store) (known : List String),
      st.services.bind σ.known = none → st'.services.map τ.known = some (some known) →
      ∀ documents,
        (st.schema.checkDocuments σ documents).Sublist (st'.schema.checkDocuments τ documents) ∧
        (st.services ≠ none → Adds (Finding.IsUnknownService known)
          (st.schema.checkDocuments σ documents) (st'.schema.checkDocuments τ documents))) ∧
    ∀ (c : Config) (folder : Nat) (σ : Store) (documents : List Value) (known : List String),
      known ≠ [] →
      let found (services : Option (List String)) := c.checkGiven services folder σ documents
      (∀ known', known ⊆ known' → ((found (some known')).map Diagnostic.seat).Sublist
        ((found (some known)).map Diagnostic.seat)) ∧
      (found none).Sublist (found (some known)) ∧ (found (some [])).Sublist (found (some known)) ∧
      Adds (Finding.IsUnknownService known) (found (some [])) (found (some known)) := by
  refine ⟨fun st st' σ τ known known' h h' hsub => seatsIn_checkDocuments h h' hsub,
    fun st st' σ τ known h h' documents => ⟨sublist_checkDocuments h h' documents,
      fun hs => adds_checkDocuments (map_known_of_bind h hs) h' documents⟩, ?config⟩
  case config =>
    intro c folder σ documents known hne found
    have hlist {values : List String} (hvalues : values ≠ []) :
        (({ c with services := some values }).settings folder σ).1.services.map
          (({ c with services := some values }).settings folder σ).2.known =
            some (some values) := by
      rw [Config.known_of_services rfl, Option.filter_some, if_pos (by simpa using hvalues)]
    have hempty : (({ c with services := some [] }).settings folder σ).1.services.map
        (({ c with services := some [] }).settings folder σ).2.known = some none := by
      rw [Config.known_of_services rfl]
      rfl
    refine ⟨fun known' hsub => ?_, ?_, ?_, ?_⟩
    · have hne' : known' ≠ [] := List.ne_nil_of_mem (hsub (List.head_mem hne))
      exact seatsIn_checkDocuments (hlist hne) (hlist hne') hsub documents
    · exact sublist_checkDocuments_of_none (Config.services_settings_of_none rfl) documents
    · exact (adds_checkDocuments hempty (hlist hne) documents).sublist
    · exact adds_checkDocuments hempty (hlist hne) documents

/-- Three services, one of them blank. A source that has not been asked, then answers with one
service; and configurations with that service and one more, with an empty list, and with none. -/
theorem check_monotone_in_services_wavering :
    let st : Settings := { services := some ⟨0, 0, 2000⟩ }
    let unasked := (Session.empty.run [.create Session.wavering]).store
    let asked := (Session.empty.run [.create Session.wavering, .fetch 0]).store
    let documents : List Value := [.mapping [(.string "services",
      .sequence [.string "redis", .string "", .string "oracle"])]]
    let found (services : Option (List String)) :=
      ({} : Config).checkGiven services 0 .empty documents
    let refusal (i : Nat) (raw : String) (cause : Scalar.Cause) : Diagnostic :=
      ⟨[.key "services", .item i], .refused ⟨raw, cause⟩⟩
    let unknown (known : List String) : Scalar.Cause := .unknownValue "Service" known
    (st.schema.checkDocuments asked documents = [refusal 0 "redis" (unknown ["mysql"]),
        refusal 1 "" .empty, refusal 2 "oracle" (unknown ["mysql"])] ∧
      found (some ["mysql", "redis"]) =
        [refusal 1 "" .empty, refusal 2 "oracle" (unknown ["mysql", "redis"])] ∧
      found (some []) = [refusal 1 "" .empty] ∧ found none = []) ∧
    ((found (some ["mysql", "redis"])).map Diagnostic.seat).Sublist
        ((st.schema.checkDocuments asked documents).map Diagnostic.seat) ∧
      Adds (Finding.IsUnknownService ["mysql"]) (st.schema.checkDocuments unasked documents)
        (st.schema.checkDocuments asked documents) ∧
      (found none).Sublist (found (some ["mysql", "redis"])) := by
  intro st unasked asked documents found refusal unknown
  obtain ⟨hlists, hnothing, hconfig⟩ := check_monotone_in_services
  let c : Config := { services := some ["mysql", "redis"] }
  refine ⟨⟨by decide, by decide, by decide, by decide⟩, ?_, ?_, ?_⟩
  · exact hlists st (c.settings 0 .empty).1 asked (c.settings 0 .empty).2 ["mysql"]
      ["mysql", "redis"] rfl rfl (by simp) documents
  · exact (hnothing st st unasked asked ["mysql"] rfl rfl documents).2 nofun
  · exact (hconfig {} 0 .empty documents ["mysql", "redis"] nofun).2.1

end Manifest.Settings

end TypedManifest
