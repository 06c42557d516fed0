import TypedManifest.Proofs.Result
import TypedManifest.Proofs.Text.Blank
import TypedManifest.Proofs.Text.Cut
import TypedManifest.Proofs.Text.Digits
import TypedManifest.Scalar.Route

/-!
# Reading a route and writing it

A text is taken apart at its first slash, and what stands before that at its last colon
(`split_eq_ok_iff`, `readAuthority_eq_ok_iff`). The pieces of a route that has been read fit
together again: a host may hold colons only if a port follows, no host holds a slash, and a path
begins with one. This is the `Shape` of a route, and a route of this shape is what is read when it
is written (`split_text`), whichever way its port was spelled in the first place.
-/

namespace TypedManifest.Scalar.Route

open Text

/-! ### Taking apart -/

variable {cs : List Char} {r : Route}

/-- Before a path there is a host alone, which holds no colon, or a host and a port with a colon
between them, which is the last one. -/
theorem readAuthority_eq_ok_iff {host : List Char} {port : Option Nat} :
    readAuthority cs = .ok (host, port) ↔ checkHost host = .ok () ∧
      (port = none ∧ cs = host ∧ ':' ∉ host ∨
        ∃ p literal, port = some p ∧ cs = host ++ ':' :: literal ∧ ':' ∉ literal ∧
          naturalUpTo? maxPort literal = some p) := by
  unfold readAuthority
  cases hcut : cutLast ':' cs with
  | none =>
    have hcolon : ':' ∉ cs := cutLast_eq_none_iff.mp hcut
    refine map_eq_ok_iff.trans ⟨?_, ?_⟩
    · rintro ⟨u, hcheck, hpieces⟩
      obtain ⟨rfl, rfl⟩ := Prod.mk.inj hpieces
      exact ⟨hcheck, .inl ⟨rfl, rfl, hcolon⟩⟩
    · rintro ⟨hcheck, ⟨rfl, rfl, -⟩ | ⟨p, literal, -, rfl, -⟩⟩
      · exact ⟨(), hcheck, rfl⟩
      · simp at hcolon
  | some pieces =>
    obtain ⟨host', literal⟩ := pieces
    obtain ⟨rfl, hcolon⟩ := cutLast_eq_some_iff.mp hcut
    constructor
    · intro h
      cases hport : naturalUpTo? maxPort literal with
      | none => simp [hport] at h
      | some p =>
        simp only [hport] at h
        obtain ⟨u, hcheck, hpieces⟩ := map_eq_ok_iff.mp h
        obtain ⟨rfl, rfl⟩ := Prod.mk.inj hpieces
        exact ⟨hcheck, .inr ⟨p, literal, rfl, rfl, hcolon, hport⟩⟩
    · rintro ⟨hcheck, ⟨-, rfl, hnone⟩ | ⟨p, literal', rfl, hcs, hcolon', hport⟩⟩
      · simp at hnone
      · -- There is one last colon, so the two cuts are the same.
        have hsame := cutLast_eq_some_iff.mpr ⟨hcs, hcolon'⟩
        obtain ⟨rfl, rfl⟩ : host' = host ∧ literal = literal' := by
          simpa [hcut] using hsame
        simp only [hport]
        exact map_eq_ok_iff.mpr ⟨(), hcheck, rfl⟩

/-- A text without blanks is cut at its first slash. -/
theorem split_eq_ok_iff : split cs = .ok r ↔ cs ≠ [] ∧ (∀ c ∈ cs, isBlank c = false) ∧
    ∃ authority path host port, cs = authority ++ path ∧ '/' ∉ authority ∧
      (∀ c ∈ path.head?, c = '/') ∧ readAuthority authority = .ok (host, port) ∧
      r = ⟨String.ofList host, none, port,
        if path = [] then none else some (String.ofList path)⟩ := by
  unfold split
  by_cases hnil : cs = []
  · simp [hnil]
  by_cases hblank : cs.any isBlank = true
  · have hnot : ¬ ∀ c ∈ cs, isBlank c = false := by simpa using hblank
    simp [hnil, hblank, hnot]
  have hnone : ∀ c ∈ cs, isBlank c = false := by simpa using hblank
  rw [if_neg hnil, if_neg hblank]
  constructor
  · intro h
    obtain ⟨⟨authority, path⟩, hcut⟩ : ∃ pieces, cutBefore (· == '/') cs = pieces := ⟨_, rfl⟩
    obtain ⟨rfl, hauthority, hpath⟩ := cutBefore_eq_iff.mp hcut
    rw [hcut] at h
    obtain ⟨⟨host, port⟩, hread, rfl⟩ := map_eq_ok_iff.mp h
    refine ⟨hnil, hnone, authority, path, host, port, rfl, fun hslash => ?_, fun c hc => ?_,
      hread, rfl⟩
    · simpa using hauthority '/' hslash
    · simpa using hpath c hc
  · rintro ⟨-, -, authority, path, host, port, rfl, hauthority, hpath, hread, rfl⟩
    have hcut : cutBefore (· == '/') (authority ++ path) = (authority, path) := by
      refine cutBefore_append (fun c hc => ?_) fun c hc => by simpa using hpath c hc
      exact beq_false_of_ne (ne_of_mem_of_not_mem hc hauthority)
    rw [hcut]
    exact map_eq_ok_iff.mpr ⟨_, hread, rfl⟩

/-! ### Writing -/

/-- What stands before the path. -/
def authority (r : Route) : List Char :=
  r.host.toList ++ match r.port with
    | some p => ':' :: Nat.toDigits 10 p
    | none => []

theorem toList_text (r : Route) : r.text.toList = r.authority ++ (r.path.getD "").toList := by
  obtain ⟨host, domain, port, path⟩ := r
  cases port with
  | none => simp [text, authority]
  | some p => simp [text, authority, Nat.repr_eq_ofList_toDigits]

/-- The route can be written so that it is read again. -/
structure Shape (r : Route) : Prop where
  /-- The host is a list of segments. -/
  host : checkHost r.host.toList = .ok ()
  /-- No blank is in the host. -/
  host_not_blank : ∀ c ∈ r.host.toList, isBlank c = false
  /-- The path does not begin in the host. -/
  slash_not_mem : '/' ∉ r.host.toList
  /-- Nothing in the host can be mistaken for a port. -/
  colon_not_mem : r.port = none → ':' ∉ r.host.toList
  /-- The port is in range. -/
  port_le : ∀ p ∈ r.port, p ≤ maxPort
  /-- A path begins with a slash. -/
  path : ∀ path ∈ r.path, path.toList.head? = some '/'
  /-- No blank is in the path. -/
  path_not_blank : ∀ path ∈ r.path, ∀ c ∈ path.toList, isBlank c = false

/-- A route that has been read has the shape, and its domain is still open. -/
theorem shape_of_split (h : split cs = .ok r) : r.Shape ∧ r.domain = none := by
  obtain ⟨-, hblank, authority, path, host, port, rfl, hslash, hpath, hread, rfl⟩ :=
    split_eq_ok_iff.mp h
  obtain ⟨hcheck, hport⟩ := readAuthority_eq_ok_iff.mp hread
  -- Blanks and slashes are ruled out for all that stands before the path, and so for the host.
  have hhost : host ⊆ authority := by
    obtain ⟨-, rfl, -⟩ | ⟨p, literal, -, rfl, -⟩ := hport
    · exact List.Subset.refl _
    · exact List.subset_append_left ..
  have hwritten : ∀ p, p ∈ (if path = [] then none else some (String.ofList path)) →
      path ≠ [] ∧ p = String.ofList path := by
    intro p hp
    split at hp
    · nomatch hp
    · next hne => exact ⟨hne, (Option.some.inj hp).symm⟩
  refine ⟨⟨?host, ?host_not_blank, ?slash, ?colon, ?port, ?path, ?path_not_blank⟩, rfl⟩
  case host => simpa using hcheck
  case host_not_blank =>
    intro c hc
    rw [String.toList_ofList] at hc
    exact hblank c (List.mem_append_left _ (hhost hc))
  case slash =>
    intro hc
    rw [String.toList_ofList] at hc
    exact hslash (hhost hc)
  case colon =>
    rintro rfl
    obtain ⟨-, rfl, hcolon⟩ | ⟨p, literal, hp, -⟩ := hport
    · simpa using hcolon
    · nomatch hp
  case port =>
    rintro p rfl
    obtain ⟨hp, -⟩ | ⟨p', literal, hp, -, -, hliteral⟩ := hport
    · nomatch hp
    · obtain rfl := Option.some.inj hp
      exact le_of_naturalUpTo? hliteral
  case path =>
    intro p hp
    obtain ⟨hne, rfl⟩ := hwritten p hp
    obtain ⟨c, rest, rfl⟩ := List.exists_cons_of_ne_nil hne
    rw [String.toList_ofList, hpath c rfl]
    rfl
  case path_not_blank =>
    intro p hp c hc
    obtain ⟨-, rfl⟩ := hwritten p hp
    rw [String.toList_ofList] at hc
    exact hblank c (List.mem_append_right _ hc)

theorem mem_authority {c : Char} (h : c ∈ r.authority) :
    c ∈ r.host.toList ∨ c = ':' ∨ c.isDigit = true := by
  unfold authority at h
  obtain hc | hc := List.mem_append.mp h
  · exact .inl hc
  · cases hport : r.port with
    | none => simp [hport] at hc
    | some p =>
      rw [hport, List.mem_cons] at hc
      obtain rfl | hc := hc
      · exact .inr (.inl rfl)
      · exact .inr (.inr (Nat.isDigit_of_mem_toDigits (by decide) (by decide) hc))

theorem readAuthority_authority (h : r.Shape) :
    readAuthority r.authority = .ok (r.host.toList, r.port) := by
  refine readAuthority_eq_ok_iff.mpr ⟨h.host, ?_⟩
  unfold authority
  cases hport : r.port with
  | none => exact .inl ⟨rfl, List.append_nil _, h.colon_not_mem hport⟩
  | some p =>
    exact .inr ⟨p, Nat.toDigits 10 p, rfl, rfl, not_mem_toDigits p (by decide),
      naturalUpTo?_toDigits (h.port_le p hport)⟩

theorem Shape.text_ne_nil (h : r.Shape) : r.text.toList ≠ [] := by
  have hhost : r.host.toList ≠ [] := by
    intro hnil
    have hcheck := h.host
    simp [checkHost, hnil] at hcheck
  rw [toList_text, authority]
  simp [hhost]

theorem Shape.text_not_blank (h : r.Shape) : ∀ c ∈ r.text.toList, isBlank c = false := by
  intro c hc
  rw [toList_text, List.mem_append] at hc
  obtain hc | hc := hc
  · obtain hc | rfl | hc := mem_authority hc
    · exact h.host_not_blank c hc
    · decide
    · exact isBlank_of_isDigit hc
  · cases hpath : r.path with
    | none => simp [hpath] at hc
    | some path => exact h.path_not_blank path hpath c (by simpa [hpath] using hc)

/-- **A route of the right shape is what is read when it is written.** The domain does not show in
the text. -/
theorem split_text (h : Shape r) : split r.text.toList = .ok { r with domain := none } := by
  refine split_eq_ok_iff.mpr ⟨h.text_ne_nil, h.text_not_blank, r.authority, (r.path.getD "").toList,
    r.host.toList, r.port, toList_text r, fun hslash => ?_, fun c hc => ?_,
    readAuthority_authority h, ?_⟩
  · obtain hmem | hcolon | hdigit := mem_authority hslash
    · exact h.slash_not_mem hmem
    · nomatch hcolon
    · nomatch hdigit
  · cases hpath : r.path with
    | none => simp [hpath] at hc
    | some path =>
      have hhead := h.path path hpath
      simpa [hpath, hhead, eq_comm] using hc
  · obtain ⟨host, domain, port, path⟩ := r
    cases path with
    | none => simp
    | some path =>
      have hhead : path.toList.head? = some '/' := h.path path rfl
      have hne : path ≠ "" := by
        rintro rfl
        nomatch hhead
      simp [hne]

/-! ### Reading -/

variable {known : Option (List String)} {strict : Bool} {raw : String}

/-- Once a route has been taken apart, only a strict reader refuses it, and only because its host
lies under none of the domains that are known. -/
theorem read_of_split (h : split (trim raw.toList) = .ok r) : read known strict raw =
    if known ≠ none ∧ known.bind (domainOf? · r.host) = none ∧ strict = true then
      .error ⟨raw, .unknownValue "domain" (known.getD [])⟩
    else .ok { r with domain := known.bind (domainOf? · r.host) } := by
  unfold read
  rw [h]
  cases known with
  | none => simp
  | some ks => cases hdomain : domainOf? ks r.host <;> cases strict <;> simp [hdomain]

theorem read_eq_ok_iff : read known strict raw = .ok r ↔
    split (trim raw.toList) = .ok { r with domain := none } ∧
      r.domain = known.bind (domainOf? · r.host) ∧
      ¬ (known ≠ none ∧ r.domain = none ∧ strict = true) := by
  constructor
  · intro h
    cases hsplit : split (trim raw.toList) with
    | error cause => simp [read, hsplit] at h
    | ok route =>
      obtain ⟨-, hopen⟩ := shape_of_split hsplit
      rw [read_of_split hsplit] at h
      split at h
      · nomatch h
      · next hfound =>
        obtain rfl := Except.ok.inj h
        exact ⟨by rw [← hopen], rfl, hfound⟩
  · rintro ⟨hsplit, hdomain, hfound⟩
    rw [read_of_split hsplit, ← hdomain, if_neg hfound]

/-- **What has been read as a route is read as the same route when it is written.** -/
theorem read_text (h : read known strict raw = .ok r) : read known strict r.text = .ok r := by
  obtain ⟨hsplit, hdomain⟩ := read_eq_ok_iff.mp h
  obtain ⟨hshape, -⟩ := shape_of_split hsplit
  have hagain : split (trim r.text.toList) = .ok { r with domain := none } := by
    have htrim : trim r.text.toList = r.text.toList := trim_eq_self hshape.text_not_blank
    rw [htrim]
    exact split_text (r := { r with domain := none }) hshape
  exact read_eq_ok_iff.mpr ⟨hagain, hdomain⟩

end TypedManifest.Scalar.Route
