import TypedManifest.Proofs.Hint.Request
import TypedManifest.Proofs.Scalar.Route.Grammar
import TypedManifest.Proofs.Text.Case

/-!
# The domain of a route

A name is a list of labels with points between them, and case does not count. A domain covers a host
when its labels are the last labels of the host. All the domains that cover one host are nested,
each covering the longer ones, so among those that are known there is a most specific one, whatever
else is known and in whatever order (`MostSpecific`).

The reader knows nothing of labels. It looks for a domain at the end of the host, behind a point,
and takes the longest text that it finds there. A text ends in another behind a point exactly when
its labels end in the labels of the other (`liesUnder_eq_true_iff`), and of two domains of one host
the one that takes more bytes is covered by the other (`Covers.of_size_le`); so what the reader
takes is most specific (`mostSpecific_domainOf?`). A strict reader differs only in that it refuses a
host that no known domain covers (`Parser.route_domain_most_specific`).
-/

namespace TypedManifest.Scalar

open Text

namespace Route

/-! ### Labels -/

/-- The labels of a name, in lower case. -/
def labels (name : String) : List (List Char) := (name.toList.splitOn '.').map lower

/-- The labels of the domain are the last labels of the name. -/
def Covers (domain name : String) : Prop := labels domain <:+ labels name

variable {d d' host host' : String}

/-- Case may be folded before the labels are told apart, since no letter is folded to a point. -/
theorem labels_eq (name : String) : labels name = (lower name.toList).splitOn '.' :=
  (splitOn_map fun _ => toLower_eq_iff_of_lt (by decide)).symm

theorem covers_iff : Covers d host ↔
    lower d.toList = lower host.toList ∨ '.' :: lower d.toList <:+ lower host.toList := by
  rw [Covers, labels_eq, labels_eq, splitOn_isSuffix_splitOn_iff]

/-- The reader finds the domains that cover the host. -/
theorem liesUnder_eq_true_iff : liesUnder host d = true ↔ Covers d host := by
  rw [covers_iff, liesUnder, Bool.or_eq_true, beq_iff_eq, List.isSuffixOf_iff_suffix, eq_comm]

/-- Names cover each other when they are the same but for case. -/
theorem Covers.lower_eq (h : Covers d d') (h' : Covers d' d) :
    lower d.toList = lower d'.toList := by
  have hlabels : labels d = labels d' := h.eq_of_length_le h'.length_le
  rw [labels_eq, labels_eq] at hlabels
  exact splitOn_inj.mp hlabels

/-- Bytes may be counted after case has been folded. -/
theorem utf8ByteSize_eq_utf8Len_lower (name : String) :
    name.utf8ByteSize = String.utf8Len (lower name.toList) := by
  rw [utf8Len_lower, String.utf8Len_toList]

/-- Of two domains of one host, the one that takes no more bytes covers the other. -/
theorem Covers.of_size_le (h : Covers d host) (h' : Covers d' host)
    (hsize : d'.utf8ByteSize ≤ d.utf8ByteSize) : Covers d' d := by
  obtain hle | hle := List.suffix_or_suffix_of_suffix h h'
  · -- The other way round is possible only if the two are the same.
    obtain hsame | hbehind := covers_iff.mp hle
    · exact covers_iff.mpr (.inl hsame.symm)
    · have hlonger := String.utf8Len_le_of_suffix hbehind
      rw [String.utf8Len_cons, ← utf8ByteSize_eq_utf8Len_lower,
        ← utf8ByteSize_eq_utf8Len_lower] at hlonger
      have hpoint : 0 < '.'.utf8Size := Char.utf8Size_pos _
      omega
  · exact hle

/-! ### The longest -/

theorem longest?_append_singleton (texts : List String) (t : String) :
    longest? (texts ++ [t]) = match longest? texts with
      | some b => if t.utf8ByteSize < b.utf8ByteSize then some b else some t
      | none => some t := by
  rw [longest?, List.foldl_append]
  rfl

/-- There is a longest one of some texts; it is one of them, and no other is longer. -/
theorem longest?_spec (texts : List String) : longest? texts = none ∧ texts = [] ∨
    ∃ b, longest? texts = some b ∧ b ∈ texts ∧ ∀ t ∈ texts, t.utf8ByteSize ≤ b.utf8ByteSize := by
  induction texts using List.reverseRecOn with
  | nil => exact .inl ⟨rfl, rfl⟩
  | append_singleton texts t ih =>
    rw [longest?_append_singleton]
    obtain ⟨hbest, rfl⟩ | ⟨b, hbest, hmem, hlongest⟩ := ih
    · exact .inr ⟨t, by rw [hbest], by simp, by simp⟩
    · simp only [hbest]
      by_cases hlt : t.utf8ByteSize < b.utf8ByteSize
      · refine .inr ⟨b, if_pos hlt, List.mem_append_left _ hmem, fun u hu => ?_⟩
        obtain hu | hu := List.mem_append.mp hu
        · exact hlongest u hu
        · obtain rfl := List.mem_singleton.mp hu
          omega
      · refine .inr ⟨t, if_neg hlt, List.mem_append_right _ List.mem_cons_self, fun u hu => ?_⟩
        obtain hu | hu := List.mem_append.mp hu
        · have hle := hlongest u hu
          omega
        · obtain rfl := List.mem_singleton.mp hu
          omega

/-! ### The most specific -/

/-- The answer is the most specific of the domains that cover the host: it is covered by all the
others. There is no answer only if no domain covers the host. -/
inductive MostSpecific (known : List String) (host : String) : Option String → Prop where
  /-- No domain covers the host. -/
  | none : (∀ d ∈ known, ¬ Covers d host) → MostSpecific known host none
  /-- All that cover the host cover the answer. -/
  | some {d : String} : d ∈ known → Covers d host →
      (∀ d' ∈ known, Covers d' host → Covers d' d) → MostSpecific known host (some d)

variable {known known' : List String} {answer answer' : Option String}

/-- **The longest domain at the end of a host is the most specific one.** -/
theorem mostSpecific_domainOf? (known : List String) (host : String) :
    MostSpecific known host (domainOf? known host) := by
  have hmem (d : String) : d ∈ known.filter (liesUnder host) ↔ d ∈ known ∧ Covers d host := by
    rw [List.mem_filter, liesUnder_eq_true_iff]
  unfold domainOf?
  obtain ⟨hnone, hnil⟩ | ⟨d, hd, hfound, hlongest⟩ :=
    longest?_spec (known.filter (liesUnder host))
  · rw [hnone]
    refine .none fun d hd hcovers => ?_
    have hfound := (hmem d).mpr ⟨hd, hcovers⟩
    rw [hnil] at hfound
    nomatch hfound
  · rw [hd]
    obtain ⟨hknown, hcovers⟩ := (hmem d).mp hfound
    exact .some hknown hcovers fun d' hd' hcovers' =>
      hcovers.of_size_le hcovers' (hlongest d' ((hmem d').mpr ⟨hd', hcovers'⟩))

/-- The most specific domain of a host is one but for case, and depends on which domains are known
and on the labels of the host. -/
theorem MostSpecific.lower_eq (h : MostSpecific known host answer)
    (h' : MostSpecific known' host' answer') (hknown : ∀ d, d ∈ known ↔ d ∈ known')
    (hhost : labels host = labels host') :
    answer.map (fun d => lower d.toList) = answer'.map (fun d => lower d.toList) := by
  have hcovers (d : String) : Covers d host ↔ Covers d host' := by rw [Covers, Covers, hhost]
  cases h with
  | none hnone =>
    cases h' with
    | none => rfl
    | some hd' hcovers' =>
      exact absurd ((hcovers _).mpr hcovers') (hnone _ ((hknown _).mpr hd'))
  | some hd hd_covers hmost =>
    cases h' with
    | none hnone' => exact absurd ((hcovers _).mp hd_covers) (hnone' _ ((hknown _).mp hd))
    | some hd' hd'_covers hmost' =>
      have hle := hmost' _ ((hknown _).mp hd) ((hcovers _).mp hd_covers)
      have hge := hmost _ ((hknown _).mpr hd') ((hcovers _).mpr hd'_covers)
      exact congrArg Option.some (hle.lower_eq hge)

/-- The case of the host does not matter, not even for the case of the answer. -/
theorem domainOf?_congr (h : lower host.toList = lower host'.toList) :
    domainOf? known host = domainOf? known host' := by
  have hsame : liesUnder host = liesUnder host' := by
    funext d
    simp only [liesUnder, h]
  rw [domainOf?, domainOf?, hsame]

/-! ### Reading -/

/-- The domains that are known; there are none where nothing is known of them. -/
def knownDomains (domains : Option Source) (σ : Store) : List String :=
  (domains.bind σ.known).getD []

section Reading

variable {domains domains' : Option Source} {σ σ' : Store} {raw raw' : String} {r r' : Route}

theorem bind_known_eq (domains : Option Source) (σ : Store) : domains.bind σ.known =
    if knownDomains domains σ = [] then none else some (knownDomains domains σ) := by
  unfold knownDomains
  cases hknown : domains.bind σ.known with
  | none => rfl
  | some known =>
    obtain ⟨s, rfl, hs⟩ := Option.bind_eq_some_iff.mp hknown
    obtain ⟨hne, -⟩ := (σ.known_eq_some_iff s).mp hs
    simp [hne]

/-- The domain of a route that has been read is the most specific one that is known. -/
theorem mostSpecific_bind_known (domains : Option Source) (σ : Store) (host : String) :
    MostSpecific (knownDomains domains σ) host
      ((domains.bind σ.known).bind (domainOf? · host)) := by
  rw [bind_known_eq]
  split
  · next hnil =>
    rw [hnil]
    exact .none nofun
  · exact mostSpecific_domainOf? _ host

theorem domain_of_read {strict : Bool} (h : read (domains.bind σ.known) strict raw = .ok r) :
    r.domain = (domains.bind σ.known).bind (domainOf? · r.host) :=
  (read_eq_ok_iff.mp h).2.1

/-- Two hosts that differ in case only have the same domain, and where two lists hold the same known
domains, the domain is the same but for case. -/
theorem domain_congr (h : read (domains.bind σ.known) false raw = .ok r)
    (h' : read (domains'.bind σ'.known) false raw' = .ok r')
    (hhost : lower r.host.toList = lower r'.host.toList) :
    (knownDomains domains σ = knownDomains domains' σ' → r.domain = r'.domain) ∧
      ((∀ d, d ∈ knownDomains domains σ ↔ d ∈ knownDomains domains' σ') →
        r.domain.map (fun d => lower d.toList) = r'.domain.map fun d => lower d.toList) := by
  rw [domain_of_read h, domain_of_read h']
  constructor
  · intro hknown
    rw [bind_known_eq domains, bind_known_eq domains', hknown]
    split
    · rfl
    · exact domainOf?_congr hhost
  · intro hknown
    have hlabels : labels r.host = labels r'.host := by rw [labels_eq, labels_eq, hhost]
    exact (mostSpecific_bind_known domains σ r.host).lower_eq
      (mostSpecific_bind_known domains' σ' r'.host) hknown hlabels

/-- A strict reader goes by what the other one has read. -/
theorem read_strict (domains : Option Source) (σ : Store) (raw : String) :
    read (domains.bind σ.known) true raw = match read (domains.bind σ.known) false raw with
      | .ok r => if knownDomains domains σ ≠ [] ∧ r.domain = none then
          .error ⟨raw, .unknownValue "domain" (knownDomains domains σ)⟩
        else .ok r
      | .error e => .error e := by
  cases hsplit : split (trim raw.toList) with
  | error cause => rw [read_eq_error hsplit, read_eq_error hsplit]
  | ok r =>
    rw [read_of_split hsplit, read_of_split hsplit, bind_known_eq]
    by_cases hnil : knownDomains domains σ = []
    · simp [hnil]
    · simp [hnil]

end Reading

end Route

/-- **The domain of a route.** A text that is made up of parts is read as a route whose domain is
the most specific of the known domains that cover the host. For all hosts that differ in case only
it is the same, and for all lists that hold the same domains it is the same but for case. A strict
reader returns what the other one does, unless domains are known and none of them covers the host,
which it refuses as unknown. -/
theorem Parser.route_domain_most_specific (domains : Option Source) (σ : Store) (raw : String) :
    let known := Route.knownDomains domains σ
    let result := (Parser.route domains false).parse σ raw
    (∀ p : Route.Parts, p.MakeUp (trim raw.toList) →
      ∃ domain, Route.MostSpecific known (String.ofList p.host) domain ∧
        result = .ok (.route (p.route domain))) ∧
    (∀ (domains' : Option Source) (σ' : Store) (raw' : String) (r r' : Route),
      result = .ok (.route r) → (Parser.route domains' false).parse σ' raw' = .ok (.route r') →
      lower r.host.toList = lower r'.host.toList →
      (known = Route.knownDomains domains' σ' → r.domain = r'.domain) ∧
        ((∀ d, d ∈ known ↔ d ∈ Route.knownDomains domains' σ') →
          r.domain.map (fun d => lower d.toList) = r'.domain.map fun d => lower d.toList)) ∧
    (Parser.route domains true).parse σ raw = match result with
      | .ok (.route r) => if known ≠ [] ∧ r.domain = none then
          .error ⟨raw, .unknownValue "domain" known⟩
        else .ok (.route r)
      | result => result := by
  intro known result
  refine ⟨fun p hp => ?specific, fun domains' σ' raw' r r' h h' hhost => ?congr, ?strict⟩
  case specific =>
    exact ⟨_, Route.mostSpecific_bind_known domains σ _,
      route_eq_ok_iff.mpr (Route.read_of_parts hp)⟩
  case congr => exact Route.domain_congr (route_eq_ok_iff.mp h) (route_eq_ok_iff.mp h') hhost
  case strict =>
    have hresult : result = (Route.read (domains.bind σ.known) false raw).map .route := rfl
    rw [hresult, Parser.parse, Route.read_strict]
    cases Route.read (domains.bind σ.known) false raw with
    | error e => rfl
    | ok r => exact apply_ite (Except.map Value.route) _ _ _

/-- Three of the six known domains cover the host and two of them are the same but for case; the
other one of the two is found for the host in lower case when the list is turned round. A strict
reader refuses a host of which only the last label is known. -/
theorem Parser.route_domain_most_specific_nested :
    let known := ["example.com", "", "APPS.Example.com", "org", "apps.example.COM", ".example.com"]
    let s : Source := ⟨0, 0, 0⟩
    let store (known : List String) : Store :=
      (Store.empty.add (.fixed "domains" (known.map ({ value := · })))).2
    Route.MostSpecific known "Web.Apps.Example.Com" (some "apps.example.COM") ∧
      lower "apps.example.COM".toList = lower "APPS.Example.com".toList ∧
      (Parser.route (some s) true).parse (store ["example.org"]) "web.sample.org" =
        .error ⟨"web.sample.org", .unknownValue "domain" ["example.org"]⟩ := by
  intro known s store
  obtain ⟨hspecific, hcongr, -⟩ :=
    route_domain_most_specific (some s) (store known) "Web.Apps.Example.Com:80"
  obtain ⟨-, -, hstrict⟩ :=
    route_domain_most_specific (some s) (store ["example.org"]) "web.sample.org"
  have hread : (Parser.route (some s) false).parse (store known) "Web.Apps.Example.Com:80" =
      .ok (.route ⟨"Web.Apps.Example.Com", some "apps.example.COM", some 80, none⟩) := by decide
  have hturned : (Parser.route (some s) false).parse (store known.reverse) "web.apps.example.com" =
      .ok (.route ⟨"web.apps.example.com", some "APPS.Example.com", none, none⟩) := by decide
  refine ⟨?specific, ?case, hstrict⟩
  case specific =>
    obtain ⟨domain, hmost, hdomain⟩ := hspecific
      ⟨"Web.Apps.Example.Com".toList, some ("80".toList, 80), []⟩
      ⟨by decide, isBlank_of_any_eq_false (by decide), by decide, by decide,
        ⟨["Web".toList, "Apps".toList, "Example".toList, "Com".toList], by decide, by decide,
          by decide⟩,
        fun _ _ hport => Route.naturalUpTo?_eq_some_iff_isPort.mp (by cases hport; decide), nofun⟩
    obtain rfl : some "apps.example.COM" = domain := by
      rw [hread] at hdomain
      exact congrArg Route.domain (Value.route.inj (Except.ok.inj hdomain))
    exact hmost
  case case =>
    have hsame := (hcongr (some s) (store known.reverse) "web.apps.example.com" _ _ hread hturned
      (by decide)).2 fun d => (List.mem_reverse : d ∈ known.reverse ↔ d ∈ known).symm
    exact Option.some.inj hsame

end TypedManifest.Scalar
