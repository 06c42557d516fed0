import TypedManifest.Proofs.Scalar.Route
import TypedManifest.Proofs.Text.Numeral
import TypedManifest.Proofs.Text.Segments
import TypedManifest.Scalar.Parser

/-!
# The grammar of routes

A text is a route when it is put together from a host, a port or none, and a path or none
(`Parts.MakeUp`). The grammar says of each part what it may hold and nothing of how it is found. The
reader finds the parts by three cuts, at the first slash, at the last colon before it and at every
point, and the grammar leaves it no choice: a text is made up of at most one list of parts
(`Parts.MakeUp.unique`), and the reader accepts what has parts and returns them
(`Parser.route_accepts_iff_parts`).

The grammar forbids a colon in a host only where no port follows. So of several colons before the
path the last one begins the port, and all the others are taken for part of the host
(`Parser.count_colon_host`).
-/

namespace TypedManifest.Scalar

open Text

namespace Route

/-! ### Parts -/

/-- The text is a host: one or more segments with points between them, none of them empty. -/
def IsHost (host : List Char) : Prop :=
  ∃ segments, segments ≠ [] ∧ (∀ s ∈ segments, s ≠ [] ∧ '.' ∉ s) ∧ host = ['.'].intercalate segments

/-- The text is a literal for the port: digits, with a plus sign or none, that denote a number of
16 bits. -/
inductive IsPort (n : Nat) : List Char → Prop where
  /-- The sign and the digits. -/
  | literal {sign digits : List Char} : sign = [] ∨ sign = ['+'] → Denotes digits n → n ≤ maxPort →
      IsPort n (sign ++ digits)

/-- What a route is put together from. -/
structure Parts where
  /-- The host. -/
  host : List Char
  /-- The port, as it is written and as a number. -/
  port : Option (List Char × Nat)
  /-- The path, which is empty where there is none. -/
  path : List Char

namespace Parts

/-- What stands before the path. -/
def authority (p : Parts) : List Char :=
  p.host ++ match p.port with
    | some (literal, _) => ':' :: literal
    | none => []

/-- The route of these parts. -/
def route (p : Parts) (domain : Option String) : Route where
  host := String.ofList p.host
  domain := domain
  port := p.port.map Prod.snd
  path := if p.path = [] then none else some (String.ofList p.path)

/-- The parts make up the text. -/
structure MakeUp (p : Parts) (text : List Char) : Prop where
  /-- They are the text, one after the other. -/
  text_eq : text = p.authority ++ p.path
  /-- There is no blank anywhere. -/
  not_blank : ∀ c ∈ text, isBlank c = false
  /-- The path, if there is one, begins with a slash. -/
  path : p.path = [] ∨ p.path.head? = some '/'
  /-- That slash is the first one of the text. -/
  slash_not_mem : '/' ∉ p.authority
  /-- The host is one. -/
  host : IsHost p.host
  /-- The port is one. -/
  port : ∀ literal n, p.port = some (literal, n) → IsPort n literal
  /-- Without a port there is no colon before the path. -/
  colon_not_mem : p.port = none → ':' ∉ p.host

end Parts

/-! ### Hosts and ports -/

variable {text : List Char} {p q : Parts} {cause : Cause}

theorem IsHost.ne_nil {host : List Char} (h : IsHost host) : host ≠ [] := by
  obtain ⟨segments, hne, hsegments, rfl⟩ := h
  obtain ⟨s, rest, rfl⟩ := List.exists_cons_of_ne_nil hne
  have hs : s ≠ [] := (hsegments s List.mem_cons_self).1
  cases rest with
  | nil => simpa using hs
  | cons s' rest => simp [List.intercalate_cons_cons]

/-- The hosts are what is accepted as a host. -/
theorem checkHost_eq_ok_iff {host : List Char} : checkHost host = .ok () ↔ IsHost host := by
  have hcheck : checkHost host = .ok () ↔ host ≠ [] ∧ [] ∉ host.splitOn '.' := by
    unfold checkHost
    split
    · next hnil => simp [hnil]
    · next hnil =>
      split
      · next hempty => simpa [hnil] using hempty
      · next hfull => simpa [hnil] using hfull
  rw [hcheck]
  constructor
  · rintro ⟨-, hfull⟩
    exact ⟨host.splitOn '.', List.splitOn_ne_nil _ _,
      fun s hs => ⟨ne_of_mem_of_not_mem hs hfull, not_mem_of_mem_splitOn hs⟩,
      (List.intercalate_splitOn _).symm⟩
  · intro h
    refine ⟨h.ne_nil, ?_⟩
    obtain ⟨segments, hne, hsegments, rfl⟩ := h
    rw [List.splitOn_intercalate '.' (fun s hs => (hsegments s hs).2) hne]
    exact fun hempty => (hsegments [] hempty).1 rfl

theorem naturalUpTo?_eq_some_iff_isPort {n : Nat} {literal : List Char} :
    naturalUpTo? maxPort literal = some n ↔ IsPort n literal := by
  rw [naturalUpTo?_eq_some_iff]
  constructor
  · rintro ⟨hle, sign, digits, hsign, hdigits, rfl⟩
    exact .literal hsign hdigits hle
  · rintro @⟨sign, digits, hsign, hdigits, hle⟩
    exact ⟨hle, sign, digits, hsign, hdigits, rfl⟩

/-- A port holds no colon, so the one before it is the last. -/
theorem IsPort.colon_not_mem {n : Nat} {literal : List Char} (h : IsPort n literal) :
    ':' ∉ literal := by
  obtain @⟨sign, digits, hsign, hdigits, -⟩ := h
  have hcolon : ':' ∉ digits := hdigits.not_mem rfl
  obtain rfl | rfl := hsign <;> simpa using hcolon

/-! ### The three cuts -/

namespace Parts.MakeUp

theorem head_path (h : p.MakeUp text) : ∀ c ∈ p.path.head?, c = '/' := by
  intro c hc
  obtain hpath | hpath := h.path
  · simp [hpath] at hc
  · rw [hpath] at hc
    exact (Option.some.inj hc).symm

/-- The first cut is where the path begins. -/
theorem cutBefore_eq (h : p.MakeUp text) : cutBefore (· == '/') text = (p.authority, p.path) := by
  rw [h.text_eq]
  exact cutBefore_append
    (fun c hc => beq_false_of_ne (ne_of_mem_of_not_mem hc h.slash_not_mem))
    fun c hc => beq_iff_eq.mpr (h.head_path c hc)

/-- The second cut is where the port begins. -/
theorem cutLast_eq (h : p.MakeUp text) :
    cutLast ':' p.authority = p.port.map fun port => (p.host, port.1) := by
  unfold authority
  cases hport : p.port with
  | none =>
    rw [List.append_nil]
    exact cutLast_of_not_mem (h.colon_not_mem hport)
  | some port => exact cutLast_append (h.port _ _ hport).colon_not_mem

/-- **A text is made up in one way at most.** -/
theorem unique (hp : p.MakeUp text) (hq : q.MakeUp text) : p = q := by
  -- The cuts are made in the text, so they are the same for both, and the parts are what they cut.
  have hcut := hp.cutBefore_eq.symm.trans hq.cutBefore_eq
  obtain ⟨hauthority, hpath⟩ := Prod.mk.inj hcut
  have hlast := hp.cutLast_eq.symm.trans ((congrArg _ hauthority).trans hq.cutLast_eq)
  obtain ⟨host, port, path⟩ := p
  obtain ⟨host', port', path'⟩ := q
  obtain rfl : path = path' := hpath
  cases port with
  | none =>
    obtain rfl : port' = none := by simpa using hlast.symm
    obtain rfl : host = host' := by simpa [authority] using hauthority
    rfl
  | some port =>
    obtain ⟨literal, n⟩ := port
    obtain ⟨port', rfl, hsame⟩ := Option.map_eq_some_iff.mp hlast.symm
    obtain ⟨literal', n'⟩ := port'
    obtain ⟨rfl, rfl⟩ := Prod.mk.inj hsame
    have hn : naturalUpTo? maxPort literal' = some n :=
      naturalUpTo?_eq_some_iff_isPort.mpr (hp.port _ _ rfl)
    have hn' : naturalUpTo? maxPort literal' = some n' :=
      naturalUpTo?_eq_some_iff_isPort.mpr (hq.port _ _ rfl)
    obtain rfl : n = n' := Option.some.inj (hn.symm.trans hn')
    rfl

theorem text_ne_nil (h : p.MakeUp text) : text ≠ [] := by
  rw [h.text_eq, authority]
  simp [h.host.ne_nil]

end Parts.MakeUp

/-- What stands before the path is read when it is a host, or a host and a port. -/
theorem readAuthority_parts (h : p.MakeUp text) :
    readAuthority p.authority = .ok (p.host, p.port.map Prod.snd) := by
  refine readAuthority_eq_ok_iff.mpr ⟨checkHost_eq_ok_iff.mpr h.host, ?_⟩
  unfold Parts.authority
  cases hport : p.port with
  | none => exact .inl ⟨rfl, List.append_nil _, h.colon_not_mem hport⟩
  | some port =>
    have hliteral := h.port _ _ hport
    exact .inr ⟨port.2, port.1, rfl, rfl, hliteral.colon_not_mem,
      naturalUpTo?_eq_some_iff_isPort.mpr hliteral⟩

/-- A text is taken apart into the parts that make it up. -/
theorem split_eq_ok_iff_parts {r : Route} :
    split text = .ok r ↔ ∃ p : Parts, p.MakeUp text ∧ r = p.route none := by
  constructor
  · intro h
    obtain ⟨-, hblank, authority, path, host, port, rfl, hslash, hpath, hread, rfl⟩ :=
      split_eq_ok_iff.mp h
    obtain ⟨hcheck, hport⟩ := readAuthority_eq_ok_iff.mp hread
    have hhost : IsHost host := checkHost_eq_ok_iff.mp hcheck
    have hstart : path = [] ∨ path.head? = some '/' := by
      cases path with
      | nil => exact .inl rfl
      | cons c path => exact .inr (congrArg some (hpath c rfl))
    obtain ⟨rfl, rfl, hcolon⟩ | ⟨n, literal, rfl, rfl, -, hliteral⟩ := hport
    · refine ⟨⟨authority, none, path⟩, ⟨?_, hblank, hstart, ?_, hhost, nofun, fun _ => hcolon⟩, rfl⟩
      · simp [Parts.authority]
      · simpa [Parts.authority] using hslash
    · refine ⟨⟨host, some (literal, n), path⟩, ⟨rfl, hblank, hstart, hslash, hhost, ?_, nofun⟩, rfl⟩
      rintro _ _ ⟨⟩
      exact naturalUpTo?_eq_some_iff_isPort.mp hliteral
  · rintro ⟨p, h, rfl⟩
    exact split_eq_ok_iff.mpr ⟨h.text_ne_nil, h.not_blank, p.authority, p.path, p.host,
      p.port.map Prod.snd, h.text_eq, h.slash_not_mem, h.head_path, readAuthority_parts h, rfl⟩

/-! ### Refusals -/

theorem malformed_of_checkHost {host : List Char} (h : checkHost host = .error cause) :
    ∃ reason, cause = .malformedRoute reason := by
  unfold checkHost at h
  split at h
  · exact ⟨_, (Except.error.inj h).symm⟩
  · split at h
    · exact ⟨_, (Except.error.inj h).symm⟩
    · nomatch h

theorem malformed_of_readAuthority {cs : List Char} (h : readAuthority cs = .error cause) :
    ∃ reason, cause = .malformedRoute reason := by
  unfold readAuthority at h
  split at h
  · exact malformed_of_checkHost (map_eq_error_iff.mp h)
  · split at h
    · exact ⟨_, (Except.error.inj h).symm⟩
    · exact malformed_of_checkHost (map_eq_error_iff.mp h)

/-- Whatever is wrong with a text, it is malformed, unless it is empty. -/
theorem malformed_of_split (h : split text = .error cause) (hne : text ≠ []) :
    ∃ reason, cause = .malformedRoute reason := by
  unfold split at h
  rw [if_neg hne] at h
  split at h
  · exact ⟨_, (Except.error.inj h).symm⟩
  · exact malformed_of_readAuthority (map_eq_error_iff.mp h)

/-! ### Reading -/

variable {known : Option (List String)} {strict : Bool} {raw : String}

theorem read_of_parts (h : p.MakeUp (trim raw.toList)) : read known false raw =
    .ok (p.route (known.bind (domainOf? · (String.ofList p.host)))) := by
  rw [read_of_split (split_eq_ok_iff_parts.mpr ⟨p, h, rfl⟩)]
  simp [Parts.route]

theorem read_eq_error (h : split (trim raw.toList) = .error cause) :
    read known strict raw = .error ⟨raw, cause⟩ := by
  unfold read
  rw [h]

theorem exists_malformed_of_not_parts (hne : trim raw.toList ≠ [])
    (h : ¬ ∃ p : Parts, p.MakeUp (trim raw.toList)) :
    ∃ reason, read known strict raw = .error ⟨raw, .malformedRoute reason⟩ := by
  cases hsplit : split (trim raw.toList) with
  | ok r =>
    obtain ⟨p, hp, -⟩ := split_eq_ok_iff_parts.mp hsplit
    exact absurd ⟨p, hp⟩ h
  | error cause =>
    obtain ⟨reason, rfl⟩ := malformed_of_split hsplit hne
    exact ⟨reason, read_eq_error hsplit⟩

end Route

variable {r : Route}

theorem Parser.route_eq_ok_iff {domains : Option Source} {strict : Bool} {σ : Store}
    {raw : String} : (Parser.route domains strict).parse σ raw = .ok (.route r) ↔
      Route.read (domains.bind σ.known) strict raw = .ok r := by
  rw [Parser.parse, map_eq_ok_iff]
  simp

/-- **The grammar of routes.** Whatever domains are known, a text is accepted as a route exactly
when, trimmed, it is not empty and is made up of parts. There is at most one way to make it up, and
the host, the port and the path of the result are the parts. Every other text is refused, one of
blanks alone as empty and all the rest as malformed. -/
theorem Parser.route_accepts_iff_parts (domains : Option Source) (σ : Store) (raw : String) :
    let text := trim raw.toList
    let result := (Parser.route domains false).parse σ raw
    ((∃ v, result = .ok v) ↔ text ≠ [] ∧ ∃ p : Route.Parts, p.MakeUp text) ∧
    (∀ p q : Route.Parts, p.MakeUp text → q.MakeUp text → p = q) ∧
    (∀ p : Route.Parts, p.MakeUp text → ∃ domain, result = .ok (.route (p.route domain))) ∧
    (text = [] → result = .error ⟨raw, .empty⟩) ∧
    (text ≠ [] → (¬ ∃ p : Route.Parts, p.MakeUp text) →
      ∃ reason, result = .error ⟨raw, .malformedRoute reason⟩) := by
  intro text result
  have hread {p : Route.Parts} (h : p.MakeUp text) :
      ∃ domain, result = .ok (.route (p.route domain)) :=
    ⟨_, route_eq_ok_iff.mpr (Route.read_of_parts h)⟩
  have hblank (h : text = []) : result = .error ⟨raw, .empty⟩ := by
    have hsplit : Route.split (trim raw.toList) = .error .empty := by
      rw [show trim raw.toList = [] from h]
      rfl
    exact map_eq_error_iff.mpr (Route.read_eq_error hsplit)
  have hmalformed (hne : text ≠ []) (h : ¬ ∃ p : Route.Parts, p.MakeUp text) :
      ∃ reason, result = .error ⟨raw, .malformedRoute reason⟩ := by
    obtain ⟨reason, hreason⟩ := Route.exists_malformed_of_not_parts hne h
    exact ⟨reason, map_eq_error_iff.mpr hreason⟩
  refine ⟨⟨?accepted, ?made⟩, fun p q => Route.Parts.MakeUp.unique, fun p => hread, hblank,
    hmalformed⟩
  case accepted =>
    rintro ⟨v, hv⟩
    have hne : text ≠ [] := by
      intro hnil
      rw [hblank hnil] at hv
      nomatch hv
    refine ⟨hne, ?_⟩
    by_contra hparts
    obtain ⟨reason, hreason⟩ := hmalformed hne hparts
    rw [hreason] at hv
    nomatch hv
  case made =>
    rintro ⟨-, p, hp⟩
    obtain ⟨domain, hdomain⟩ := hread hp
    exact ⟨_, hdomain⟩

/-- A port with a plus sign and zeros, behind a host with a colon of its own; a text of blanks; and
a text with an empty segment. -/
theorem Parser.route_accepts_iff_parts_port :
    (∃ domain, (Parser.route none false).parse .empty " web.example.com:8080:+0080/a:b/c " =
        .ok (.route ⟨"web.example.com:8080", domain, some 80, some "/a:b/c"⟩)) ∧
      (Parser.route none false).parse .empty "\t\u2003" = .error ⟨"\t\u2003", .empty⟩ ∧
      ∃ reason, (Parser.route none false).parse .empty "web..com" =
        .error ⟨"web..com", .malformedRoute reason⟩ := by
  obtain ⟨-, -, hread, -, -⟩ :=
    route_accepts_iff_parts none .empty " web.example.com:8080:+0080/a:b/c "
  obtain ⟨-, -, -, hblank, -⟩ := route_accepts_iff_parts none .empty "\t\u2003"
  obtain ⟨haccepted, -, -, -, hmalformed⟩ := route_accepts_iff_parts none .empty "web..com"
  refine ⟨?_, hblank (by decide), hmalformed (by decide) fun hparts => ?_⟩
  · refine hread ⟨"web.example.com:8080".toList, some ("+0080".toList, 80), "/a:b/c".toList⟩
      ⟨by decide, isBlank_of_any_eq_false (by decide), by decide, by decide, ?_, ?_, nofun⟩
    · exact ⟨["web".toList, "example".toList, "com:8080".toList], by decide, by decide, by decide⟩
    · rintro _ _ ⟨⟩
      exact Route.naturalUpTo?_eq_some_iff_isPort.mp (by decide)
  · obtain ⟨v, hv⟩ := haccepted.mpr ⟨by decide, hparts⟩
    have hrefused : (Parser.route none false).parse .empty "web..com" =
        .error ⟨"web..com", .malformedRoute "empty domain segment"⟩ := by decide
    rw [hrefused] at hv
    nomatch hv

/-! ### Colons in a host -/

/-- **What a host holds.** The host of a route that has been read holds no slash and no blank. Of
the colons before the path it holds all but the last one, which begins the port. -/
theorem Parser.count_colon_host (domains : Option Source) (strict : Bool) (σ : Store)
    (raw : String) (r : Route) (h : (Parser.route domains strict).parse σ raw = .ok (.route r)) :
    '/' ∉ r.host.toList ∧ (∀ c ∈ r.host.toList, isBlank c = false) ∧
      r.host.toList.count ':' = ((trim raw.toList).takeWhile (· != '/')).count ':' - 1 := by
  obtain ⟨hsplit, -⟩ := Route.read_eq_ok_iff.mp (route_eq_ok_iff.mp h)
  obtain ⟨p, hp, hr⟩ := Route.split_eq_ok_iff_parts.mp hsplit
  have hhost : r.host.toList = p.host := by
    have hsame : r.host = String.ofList p.host := congrArg Route.host hr
    rw [hsame, String.toList_ofList]
  have hsubset : p.host ⊆ p.authority := List.subset_append_left ..
  refine ⟨fun hslash => ?slash, fun c hc => ?blank, ?colons⟩
  case slash =>
    rw [hhost] at hslash
    exact hp.slash_not_mem (hsubset hslash)
  case blank =>
    rw [hhost] at hc
    apply hp.not_blank
    rw [hp.text_eq]
    exact List.mem_append_left _ (hsubset hc)
  case colons =>
    have hauthority : (trim raw.toList).takeWhile (· != '/') = p.authority :=
      (Prod.mk.inj hp.cutBefore_eq).1
    rw [hauthority, hhost, Route.Parts.authority]
    cases hport : p.port with
    | none =>
      have hnone : p.host.count ':' = 0 := List.count_eq_zero.mpr (hp.colon_not_mem hport)
      simp [hnone]
    | some port =>
      have hnone : port.1.count ':' = 0 :=
        List.count_eq_zero.mpr (hp.port _ _ hport).colon_not_mem
      simp [List.count_append, hnone]

/-- Two of three colons before the path stay in the host. -/
theorem Parser.count_colon_host_three :
    let r : Route := ⟨"a:8080:8081", none, some 80, some "/b:c"⟩
    (Parser.route none true).parse .empty "a:8080:8081:80/b:c" = .ok (.route r) ∧
      '/' ∉ r.host.toList ∧ r.host.toList.count ':' = 3 - 1 := by
  intro r
  have hread : (Parser.route none true).parse .empty "a:8080:8081:80/b:c" = .ok (.route r) := by
    decide
  obtain ⟨hslash, -, hcolons⟩ := count_colon_host _ _ _ _ _ hread
  exact ⟨hread, hslash, hcolons⟩

/-- A host is accepted with a colon in it. -/
theorem Parser.colon_in_host :
    ¬ ∀ (domains : Option Source) (strict : Bool) (σ : Store) (raw : String) (r : Route),
      (Parser.route domains strict).parse σ raw = .ok (.route r) →
      ':' ∉ r.host.toList ∧ '/' ∉ r.host.toList ∧ ∀ c ∈ r.host.toList, isBlank c = false := by
  intro h
  have hread : (Parser.route none false).parse .empty "web.example.com:8080:80" =
      .ok (.route ⟨"web.example.com:8080", none, some 80, none⟩) := by decide
  exact (h _ _ _ _ _ hread).1 (by decide)

end TypedManifest.Scalar
