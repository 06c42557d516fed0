import TypedManifest.Proofs.Hint.Request
import TypedManifest.Schema.Completion

/-!
# Sessions

A source may be cloned, and so may its clones; each of them may be given a timeout of its own, and
all of them may be used in any order. A session is a store together with all the sources that are in
anybody's hands, and an `Operation` is one of the things that can happen to it. Nothing is assumed
of the providers: they may answer in time or too late, fail, or never answer, and what they say that
they know may change at any moment.

`Session.trace` lists the requests of a run. The main result, `snapshot_run`, reads the snapshots
off it: a snapshot is the values of the last request that succeeded among those made through clones
of one source. What is known through a source is then a matter of the trace and of its provider.

The argument has three parts. `step_cases` says once what an operation can do, `Inv` says that
handles share a snapshot exactly when they are clones of one handle, and a run is an induction over
its operations in which the last requests of each one count.
-/

namespace TypedManifest

/-! ### Handles and requests -/

/-- A source in somebody's hands. -/
structure Handle where
  /-- The source. -/
  source : Source
  /-- The number of the handle of which this one is a clone; a handle that is no clone has its own
  number here. -/
  origin : Nat
  deriving DecidableEq, Repr

/-- What a handle has in common with its clones. -/
structure Kin where
  /-- The handle that is no clone. -/
  origin : Nat
  /-- The provider. -/
  provider : Nat
  /-- The snapshot. -/
  snapshot : Nat
  deriving DecidableEq, Repr

/-- What a handle has in common with its clones. -/
def Handle.kin (h : Handle) : Kin := ⟨h.origin, h.source.provider, h.source.snapshot⟩

/-- A request that was made through a handle, and what came of it. -/
structure Request where
  /-- The handle. -/
  handle : Handle
  /-- What came of it. -/
  outcome : Except HintError (List Hint)

/-- The values that a request brought, if it succeeded. -/
def Request.values? (r : Request) : Option (List String) :=
  r.outcome.toOption.map (·.map Hint.value)

/-- The values that the last successful request brought, of those through handles of which `p`
holds. -/
def lastValues (p : Handle → Bool) (rs : List Request) : Option (List String) :=
  ((rs.filter (p ·.handle)).filterMap Request.values?).getLast?

section lastValues

variable {p q : Handle → Bool} {r : Request} {rs rs' : List Request}

theorem lastValues_append :
    lastValues p (rs ++ rs') = (lastValues p rs').or (lastValues p rs) := by
  simp only [lastValues, List.filter_append, List.filterMap_append, List.getLast?_append]

theorem lastValues_singleton : lastValues p [r] = if p r.handle then r.values? else none := by
  cases h : p r.handle <;> cases hv : r.values? <;> simp [lastValues, h, hv]

theorem lastValues_eq_none_iff :
    lastValues p rs = none ↔ ∀ r ∈ rs, p r.handle = true → r.values? = none := by
  simp [lastValues]

theorem lastValues_congr (h : ∀ r ∈ rs, p r.handle = q r.handle) :
    lastValues p rs = lastValues q rs := by
  rw [lastValues, lastValues, List.filter_congr h]

end lastValues

/-! ### Many requests -/

namespace Store

/-- The store after requests through the handles, one after the other. -/
def ask (σ : Store) (hs : List Handle) : Store := hs.foldl (fun σ h => (σ.fetch h.source).2) σ

/-- The requests through the handles, one after the other. -/
def requests (σ : Store) : List Handle → List Request
  | [] => []
  | h :: hs => ⟨h, (σ.fetch h.source).1⟩ :: requests (σ.fetch h.source).2 hs

variable (σ : Store)

theorem handle_mem_of_mem_requests {hs : List Handle} {r : Request} (hr : r ∈ σ.requests hs) :
    r.handle ∈ hs := by
  induction hs generalizing σ with
  | nil => nomatch hr
  | cons h hs ih =>
    obtain rfl | hr := List.mem_cons.mp hr
    · exact List.mem_cons_self
    · exact List.mem_cons_of_mem _ (ih _ hr)

theorem requests_cons (h : Handle) (hs : List Handle) : σ.requests (h :: hs) =
    [⟨h, (σ.fetch h.source).1⟩] ++ (σ.fetch h.source).2.requests hs := rfl

theorem snapshot_ask (k : Nat) (hs : List Handle) : (σ.ask hs).snapshot k =
    (lastValues (·.source.snapshot = k) (σ.requests hs)).or (σ.snapshot k) := by
  induction hs generalizing σ with
  | nil => rfl
  | cons h hs ih =>
    have hf : (σ.fetch h.source).2.snapshot k =
        (lastValues (·.source.snapshot = k) [⟨h, (σ.fetch h.source).1⟩]).or (σ.snapshot k) := by
      rw [snapshot_fetch, lastValues_singleton, eq_comm]
      by_cases hk : h.source.snapshot = k
      · simp [hk, Request.values?, valuesFor]
      · simp [hk, Ne.symm hk]
    rw [requests_cons, lastValues_append, Option.or_assoc, ← hf]
    exact ih _

/-- What no request changes, many do not. -/
theorem ask_eq_of_fetch_eq {α : Type} {f : Store → α} (hf : ∀ σ s, f (σ.fetch s).2 = f σ)
    (hs : List Handle) : f (σ.ask hs) = f σ := by
  induction hs generalizing σ with
  | nil => rfl
  | cons h hs ih => exact (ih _).trans (hf σ h.source)

@[simp] theorem size_ask (hs : List Handle) : (σ.ask hs).size = σ.size :=
  σ.ask_eq_of_fetch_eq size_fetch hs

@[simp] theorem known_provider_ask (q : Nat) (hs : List Handle) :
    ((σ.ask hs).provider q).known = (σ.provider q).known :=
  σ.ask_eq_of_fetch_eq (f := fun σ => (σ.provider q).known)
    (fun σ s => known_provider_fetch σ s q) hs

@[simp] theorem answer_provider_ask (q : Nat) (hs : List Handle) :
    ((σ.ask hs).provider q).answer = (σ.provider q).answer :=
  σ.ask_eq_of_fetch_eq (f := fun σ => (σ.provider q).answer)
    (fun σ s => answer_provider_fetch σ s q) hs

end Store

/-! ### Sessions and what can happen in them -/

/-- A store, and the sources that are in anybody's hands. -/
structure Session where
  /-- The store. -/
  store : Store
  /-- The sources, by number. -/
  handles : List Handle

/-- What can happen in a session. What is done through a handle that does not exist does nothing. -/
inductive Operation where
  /-- A provider appears, together with a source for it. -/
  | create (p : Provider)
  /-- A source with a snapshot of its own is made for the provider of a handle. -/
  | attach (i : Nat)
  /-- A handle is cloned. -/
  | clone (i : Nat)
  /-- A handle is given another timeout. -/
  | setTimeout (i timeout : Nat)
  /-- Hints are requested through a handle. -/
  | fetch (i : Nat)
  /-- Hints are requested through a handle, and done without if the request fails. -/
  | hints (i : Nat)
  /-- Hints are requested for an atomic type, to which the handles are attached as sources. -/
  | hintsFor (node : Nat) (a : Atomic) (is : List Nat)
  /-- Somebody asks what is known through a handle. -/
  | known (i : Nat)
  /-- A provider changes what it says that it knows. -/
  | setKnown (q : Nat) (known : Option (List String))

namespace Session

/-- The session in which nothing has happened. -/
def empty : Session := ⟨.empty, []⟩

/-- The type of an operation `hintsFor`. -/
def typeOf (s : Session) (node : Nat) (a : Atomic) (is : List Nat) : SchemaType :=
  .atomic node { a with sources := (is.filterMap (s.handles[·]?)).map Handle.source }

/-- What an operation makes of a session. -/
def step (s : Session) : Operation → Session
  | .create p =>
    ⟨(s.store.add p).2, s.handles ++ [⟨(s.store.add p).1, s.handles.length⟩]⟩
  | .attach i => match s.handles[i]? with
    | some h =>
      ⟨{ s.store with size := s.store.size + 1 }, s.handles ++
        [⟨⟨h.source.provider, s.store.size, Source.defaultTimeout⟩, s.handles.length⟩]⟩
    | none => s
  | .clone i => { s with handles := s.handles ++ s.handles[i]?.toList }
  | .setTimeout i timeout =>
    { s with handles := s.handles.modify i fun h => { h with source := { h.source with timeout } } }
  | .fetch i => match s.handles[i]? with
    | some h => { s with store := (s.store.fetch h.source).2 }
    | none => s
  | .hints i => match s.handles[i]? with
    | some h => { s with store := (s.store.hints h.source).2 }
    | none => s
  | .hintsFor node a is => { s with store := ((s.typeOf node a is).hintsFor s.store).2 }
  | .known _ => s
  | .setKnown q known =>
    { s with store := s.store.putProvider q { s.store.provider q with known } }

/-- The handles through which an operation requests hints. -/
def asked (s : Session) : Operation → List Handle
  | .fetch i | .hints i => s.handles[i]?.toList
  | .hintsFor _ _ is => is.filterMap (s.handles[·]?)
  | _ => []

/-- The requests that an operation makes. -/
def requests (s : Session) (op : Operation) : List Request := s.store.requests (s.asked op)

/-- What operations make of a session, one after the other. -/
def run (s : Session) (ops : List Operation) : Session := ops.foldl step s

/-- The requests that operations make, one after the other. -/
def trace (s : Session) : List Operation → List Request
  | [] => []
  | op :: ops => s.requests op ++ (s.step op).trace ops

/-- The session comes about by operations, from nothing. -/
def Reachable (s : Session) : Prop := ∃ ops, empty.run ops = s

variable (s : Session)

theorem run_cons (op : Operation) (ops : List Operation) :
    s.run (op :: ops) = (s.step op).run ops := rfl

/-! ### One step -/

theorem handle_mem_of_mem_asked {op : Operation} {h : Handle} (hh : h ∈ s.asked op) :
    h ∈ s.handles := by
  cases op <;> simp only [asked, List.not_mem_nil, Option.mem_toList, List.mem_filterMap] at hh
  case fetch | hints => exact List.mem_of_getElem? hh
  case hintsFor =>
    obtain ⟨i, -, hi⟩ := hh
    exact List.mem_of_getElem? hi

/-- What the handles have in common with their clones. -/
def kins : List Kin := s.handles.map Handle.kin

/-- What an operation does to a session: it makes requests, and there may be another clone; or a
provider appears, with a source; or a provider gets another source; or a provider changes what it
says that it knows. -/
theorem step_cases (op : Operation) :
    ((s.step op).store = s.store.ask (s.asked op) ∧
      ∃ ks ⊆ s.kins, (s.step op).kins = s.kins ++ ks) ∨
    s.asked op = [] ∧
      ((∃ p, (s.step op).store = (s.store.add p).2 ∧
        (s.step op).kins = s.kins ++ [⟨s.kins.length, s.store.size, s.store.size⟩]) ∨
      (∃ h ∈ s.handles, (s.step op).store = { s.store with size := s.store.size + 1 } ∧
        (s.step op).kins = s.kins ++ [⟨s.kins.length, h.source.provider, s.store.size⟩]) ∨
      ∃ q known, op = .setKnown q known ∧
        (s.step op).store = s.store.putProvider q { s.store.provider q with known } ∧
        (s.step op).kins = s.kins) := by
  have same {op : Operation} (h : (s.step op).handles = s.handles) :
      ∃ ks ⊆ s.kins, (s.step op).kins = s.kins ++ ks :=
    ⟨[], List.nil_subset _, by rw [kins, h, List.append_nil]; rfl⟩
  cases op with
  | create p => exact .inr ⟨rfl, .inl ⟨p, rfl, by simp [kins, step, Store.add, Handle.kin]⟩⟩
  | attach i =>
    cases hi : s.handles[i]? with
    | none => exact .inl ⟨by simp only [step, hi]; rfl, same (by simp only [step, hi])⟩
    | some h =>
      refine .inr ⟨rfl, .inr (.inl ⟨h, List.mem_of_getElem? hi, ?_, ?_⟩)⟩
      · simp only [step, hi]
      · simp [kins, step, hi, Handle.kin]
  | clone i =>
    refine .inl ⟨rfl, s.handles[i]?.toList.map Handle.kin, List.map_subset _ fun h hh => ?_, ?_⟩
    · exact List.mem_of_getElem? (Option.mem_toList.mp hh)
    · exact List.map_append
  | setTimeout i timeout =>
    refine .inl ⟨rfl, [], List.nil_subset _, ?_⟩
    rw [List.append_nil]
    refine List.ext_getElem? fun j => ?_
    simp only [kins, step, List.getElem?_map, List.getElem?_modify]
    cases s.handles[j]? with
    | none => rfl
    | some h => by_cases hj : i = j <;> simp [hj, Handle.kin]
  | fetch i =>
    cases hi : s.handles[i]? with
    | none => exact .inl ⟨by simp only [step, asked, hi]; rfl, same (by simp only [step, hi])⟩
    | some h => exact .inl ⟨by simp only [step, asked, hi]; rfl, same (by simp only [step, hi])⟩
  | hints i =>
    cases hi : s.handles[i]? with
    | none => exact .inl ⟨by simp only [step, asked, hi]; rfl, same (by simp only [step, hi])⟩
    | some h =>
      exact .inl ⟨by simp only [step, asked, hi, Store.hints_eq]; rfl,
        same (by simp only [step, hi])⟩
  | hintsFor node a is =>
    refine .inl ⟨?_, same rfl⟩
    simp only [step, asked, typeOf, SchemaType.hintsFor, Store.hintsOfAll_snd, List.foldl_map]
    rfl
  | known i => exact .inl ⟨rfl, same rfl⟩
  | setKnown q known => exact .inr ⟨rfl, .inr (.inr ⟨q, known, rfl, rfl, rfl⟩)⟩

/-- Only requests change snapshots. -/
theorem snapshot_step (op : Operation) (k : Nat) : (s.step op).store.snapshot k =
    (lastValues (·.source.snapshot = k) (s.requests op)).or (s.store.snapshot k) := by
  rw [requests]
  obtain ⟨hσ, -⟩ | ⟨ha, ⟨p, hσ, -⟩ | ⟨h, -, hσ, -⟩ | ⟨q, known, -, hσ, -⟩⟩ := s.step_cases op
  · rw [hσ, Store.snapshot_ask]
  all_goals rw [hσ, ha]; rfl

/-- A handle never ceases to exist. -/
theorem kins_subset_kins_step (op : Operation) : s.kins ⊆ (s.step op).kins := by
  obtain ⟨-, ks, -, hk⟩ | ⟨-, ⟨p, -, hk⟩ | ⟨h, -, -, hk⟩ | ⟨q, known, -, -, hk⟩⟩ := s.step_cases op
  all_goals rw [hk]
  case inr.inr.inr => exact List.Subset.refl _
  all_goals exact List.subset_append_left ..

theorem size_le_size_step (op : Operation) : s.store.size ≤ (s.step op).store.size := by
  obtain ⟨hσ, -⟩ | ⟨-, ⟨p, hσ, -⟩ | ⟨h, -, hσ, -⟩ | ⟨q, known, -, hσ, -⟩⟩ := s.step_cases op
  · exact Nat.le_of_eq (by rw [hσ, Store.size_ask])
  all_goals simp [hσ, Store.add, Store.putProvider]

/-- No operation changes how a provider answers. -/
theorem answer_provider_step (op : Operation) {q : Nat} (hq : q < s.store.size) :
    ((s.step op).store.provider q).answer = (s.store.provider q).answer := by
  obtain ⟨hσ, -⟩ | ⟨-, ⟨p, hσ, -⟩ | ⟨h, -, hσ, -⟩ | ⟨q', known, -, hσ, -⟩⟩ := s.step_cases op
  · rw [hσ, Store.answer_provider_ask]
  · simp [hσ, Store.add, Store.putProvider, Nat.ne_of_lt hq]
  · rw [hσ]
  · rw [hσ, Store.putProvider]
    by_cases h : q = q'
    · simp [h]
    · simp [h]

/-- What a provider says that it knows changes only when it says so. -/
theorem known_provider_step (op : Operation) {q : Nat} (hq : q < s.store.size)
    (hop : ∀ known, op ≠ .setKnown q known) :
    ((s.step op).store.provider q).known = (s.store.provider q).known := by
  obtain ⟨hσ, -⟩ | ⟨-, ⟨p, hσ, -⟩ | ⟨h, -, hσ, -⟩ | ⟨q', known, rfl, hσ, -⟩⟩ := s.step_cases op
  · rw [hσ, Store.known_provider_ask]
  · simp [hσ, Store.add, Store.putProvider, Nat.ne_of_lt hq]
  · rw [hσ]
  · have h : q ≠ q' := fun h => hop known (h ▸ rfl)
    simp [hσ, Store.putProvider, h]

/-! ### The invariant -/

/-- Handles with one origin are clones of each other, and no others share a snapshot. -/
structure Inv : Prop where
  /-- Origins are numbers of handles. -/
  origin_lt : ∀ k ∈ s.kins, k.origin < s.kins.length
  /-- Providers are in use. -/
  provider_lt : ∀ k ∈ s.kins, k.provider < s.store.size
  /-- Snapshots are in use. -/
  snapshot_lt : ∀ k ∈ s.kins, k.snapshot < s.store.size
  /-- Clones of one handle have their provider and their snapshot in common. -/
  clones : ∀ k ∈ s.kins, ∀ l ∈ s.kins, k.origin = l.origin → k = l
  /-- Handles with a snapshot in common are clones of one handle. -/
  apart : ∀ k ∈ s.kins, ∀ l ∈ s.kins, k.snapshot = l.snapshot → k.origin = l.origin

theorem inv_empty : empty.Inv := ⟨nofun, nofun, nofun, nofun, nofun⟩

variable {s}

/-- A handle with a snapshot of its own keeps the invariant. -/
theorem Inv.fresh {s' : Session} {q : Nat} (hi : s.Inv) (hq : q ≤ s.store.size)
    (hσ : s'.store.size = s.store.size + 1)
    (hk : s'.kins = s.kins ++ [⟨s.kins.length, q, s.store.size⟩]) : s'.Inv := by
  have hmem : ∀ k ∈ s'.kins, k ∈ s.kins ∨ k = ⟨s.kins.length, q, s.store.size⟩ := by
    intro k hk'
    rw [hk] at hk'
    simpa using hk'
  constructor
  · intro k hk'
    rw [hk, List.length_append]
    obtain h | rfl := hmem k hk'
    · exact Nat.lt_add_right _ (hi.origin_lt k h)
    · exact Nat.lt_add_one _
  · intro k hk'
    rw [hσ]
    obtain h | rfl := hmem k hk'
    · exact Nat.lt_add_right _ (hi.provider_lt k h)
    · exact Nat.lt_add_one_of_le hq
  · intro k hk'
    rw [hσ]
    obtain h | rfl := hmem k hk'
    · exact Nat.lt_add_right _ (hi.snapshot_lt k h)
    · exact Nat.lt_add_one _
  · intro k hk' l hl' he
    obtain h | rfl := hmem k hk' <;> obtain h' | rfl := hmem l hl'
    · exact hi.clones k h l h' he
    · exact absurd he (Nat.ne_of_lt (hi.origin_lt k h))
    · exact absurd he.symm (Nat.ne_of_lt (hi.origin_lt l h'))
    · rfl
  · intro k hk' l hl' he
    obtain h | rfl := hmem k hk' <;> obtain h' | rfl := hmem l hl'
    · exact hi.apart k h l h' he
    · exact absurd he (Nat.ne_of_lt (hi.snapshot_lt k h))
    · exact absurd he.symm (Nat.ne_of_lt (hi.snapshot_lt l h'))
    · rfl

/-- Another clone keeps the invariant. -/
theorem Inv.clone {s' : Session} {ks : List Kin} (hi : s.Inv) (hks : ks ⊆ s.kins)
    (hσ : s'.store.size = s.store.size) (hk : s'.kins = s.kins ++ ks) : s'.Inv := by
  have hmem : ∀ k ∈ s'.kins, k ∈ s.kins := by
    intro k hk'
    rw [hk] at hk'
    exact (List.mem_append.mp hk').elim id (hks ·)
  have hlen : s.kins.length ≤ s'.kins.length := by simp [hk]
  constructor
  · exact fun k hk' => Nat.lt_of_lt_of_le (hi.origin_lt k (hmem k hk')) hlen
  · exact fun k hk' => hσ ▸ hi.provider_lt k (hmem k hk')
  · exact fun k hk' => hσ ▸ hi.snapshot_lt k (hmem k hk')
  · exact fun k hk' l hl' => hi.clones k (hmem k hk') l (hmem l hl')
  · exact fun k hk' l hl' => hi.apart k (hmem k hk') l (hmem l hl')

theorem Inv.step (hi : s.Inv) (op : Operation) : (s.step op).Inv := by
  obtain ⟨hσ, ks, hks, hk⟩ | ⟨-, ⟨p, hσ, hk⟩ | ⟨h, hh, hσ, hk⟩ | ⟨q, known, -, hσ, hk⟩⟩ :=
    s.step_cases op
  · exact hi.clone hks (by rw [hσ, Store.size_ask]) hk
  · exact hi.fresh (Nat.le_refl _) (by rw [hσ]; rfl) hk
  · exact hi.fresh (Nat.le_of_lt (hi.provider_lt _ (List.mem_map_of_mem hh))) (by rw [hσ]) hk
  · exact hi.clone (List.nil_subset _) (by rw [hσ]; rfl) (by rw [hk, List.append_nil])

theorem Inv.run (hi : s.Inv) (ops : List Operation) : (s.run ops).Inv := by
  induction ops generalizing s with
  | nil => exact hi
  | cons op ops ih => exact ih (hi.step op)

theorem Reachable.inv (hs : s.Reachable) : s.Inv := by
  obtain ⟨ops, rfl⟩ := hs
  exact inv_empty.run ops

/-- Handles share a snapshot exactly when they have one origin. -/
theorem Inv.snapshot_eq_iff (hi : s.Inv) {k l : Kin} (hk : k ∈ s.kins) (hl : l ∈ s.kins) :
    k.snapshot = l.snapshot ↔ k.origin = l.origin :=
  ⟨hi.apart k hk l hl, fun h => congrArg Kin.snapshot (hi.clones k hk l hl h)⟩

/-! ### Whole runs -/

variable (s)

theorem kins_subset_kins_run (ops : List Operation) : s.kins ⊆ (s.run ops).kins := by
  induction ops generalizing s with
  | nil => exact List.Subset.refl _
  | cons op ops ih => exact List.Subset.trans (s.kins_subset_kins_step op) (ih _)

theorem size_le_size_run (ops : List Operation) : s.store.size ≤ (s.run ops).store.size := by
  induction ops generalizing s with
  | nil => exact Nat.le_refl _
  | cons op ops ih => exact Nat.le_trans (s.size_le_size_step op) (ih _)

theorem answer_provider_run (ops : List Operation) {q : Nat} (hq : q < s.store.size) :
    ((s.run ops).store.provider q).answer = (s.store.provider q).answer := by
  induction ops generalizing s with
  | nil => rfl
  | cons op ops ih =>
    rw [run_cons, ih _ (Nat.lt_of_lt_of_le hq (s.size_le_size_step op)),
      s.answer_provider_step op hq]

theorem known_provider_run (ops : List Operation) {q : Nat} (hq : q < s.store.size)
    (hops : ∀ known, .setKnown q known ∉ ops) :
    ((s.run ops).store.provider q).known = (s.store.provider q).known := by
  induction ops generalizing s with
  | nil => rfl
  | cons op ops ih =>
    simp only [List.mem_cons, not_or] at hops
    rw [run_cons, ih _ (Nat.lt_of_lt_of_le hq (s.size_le_size_step op)) fun known => (hops known).2,
      s.known_provider_step op hq fun known => Ne.symm (hops known).1]

variable {s}

/-- **A snapshot holds the values of the last successful request through any clone**, or is what it
was before the run, if there has been none. -/
theorem snapshot_run (hi : s.Inv) (ops : List Operation) {k : Kin} (hk : k ∈ (s.run ops).kins) :
    (s.run ops).store.snapshot k.snapshot =
      (lastValues (·.origin = k.origin) (s.trace ops)).or (s.store.snapshot k.snapshot) := by
  induction ops generalizing s with
  | nil => rfl
  | cons op ops ih =>
    -- What an operation does to a snapshot is told by numbers of snapshots. The handles asked still
    -- exist at the end, and there the invariant tells their origins.
    have hsame : lastValues (·.source.snapshot = k.snapshot) (s.requests op) =
        lastValues (·.origin = k.origin) (s.requests op) := by
      refine lastValues_congr fun r hr => ?_
      have hr : r.handle.kin ∈ s.kins :=
        List.mem_map_of_mem (s.handle_mem_of_mem_asked (s.store.handle_mem_of_mem_requests hr))
      have := (hi.run (op :: ops)).snapshot_eq_iff (s.kins_subset_kins_run (op :: ops) hr) hk
      exact decide_eq_decide.mpr this
    rw [run_cons, ih (hi.step op) hk, snapshot_step, hsame, ← Option.or_assoc, ← lastValues_append]
    rfl

/-- A snapshot stays what it is when no request through a clone succeeds. -/
theorem snapshot_run_of_fails (hi : s.Inv) (ops : List Operation) {k : Kin}
    (hk : k ∈ (s.run ops).kins)
    (hf : ∀ r ∈ s.trace ops, r.handle.origin = k.origin → r.values? = none) :
    (s.run ops).store.snapshot k.snapshot = s.store.snapshot k.snapshot := by
  have hnone : lastValues (·.origin = k.origin) (s.trace ops) = none :=
    lastValues_eq_none_iff.mpr fun r hr h => hf r hr (of_decide_eq_true h)
  rw [snapshot_run hi ops hk, hnone, Option.none_or]

/-- What is known through a source stays so when no request through a clone succeeds and the
provider says nothing else. -/
theorem known_run_of_fails (hi : s.Inv) (ops : List Operation) {h : Handle} (hh : h ∈ s.handles)
    (hf : ∀ r ∈ s.trace ops, r.handle.origin = h.origin → r.values? = none)
    (hops : ∀ known, .setKnown h.source.provider known ∉ ops) :
    (s.run ops).store.known h.source = s.store.known h.source := by
  have hk : h.kin ∈ s.kins := List.mem_map_of_mem hh
  have hs := snapshot_run_of_fails hi ops (s.kins_subset_kins_run ops hk) hf
  have hp := s.known_provider_run ops (hi.provider_lt _ hk) hops
  exact Store.known_congr hp hs

/-- **What is known through the sources of a session.** After any run a source knows what its
provider says that it knows, or else the values of the last successful request through a clone of
the source, but no empty list. Nothing else bears on it: an operation none of whose requests
succeeds leaves every snapshot as it is, and the snapshot of a source changes only by requests
through its clones. A request succeeds exactly with hints that arrive in time, and `hints` makes do
with none where it fails. -/
theorem known_after_run (ops : List Operation) : let s := empty.run ops
    (∀ h ∈ s.handles, ∀ values, s.store.known h.source = some values ↔ values ≠ [] ∧
      ((s.store.provider h.source.provider).known = some values ∨
        (s.store.provider h.source.provider).known = none ∧
          lastValues (·.origin = h.origin) (empty.trace ops) = some values)) ∧
    (∀ g ∈ s.handles, ∀ h ∈ s.handles, g.origin = h.origin →
      s.store.known g.source = s.store.known h.source) ∧
    (∀ op, (∀ r ∈ s.requests op, r.values? = none) →
      (s.step op).store.snapshot = s.store.snapshot) ∧
    (∀ op, ∀ h ∈ s.handles, (∀ r ∈ s.requests op, r.handle.origin = h.origin → r.values? = none) →
      (s.step op).store.snapshot h.source.snapshot = s.store.snapshot h.source.snapshot) ∧
    ∀ source, (s.store.hints source).2 = (s.store.fetch source).2 ∧
      (s.store.hints source).1.1 = (match (s.store.fetch source).1 with
        | .ok hints => hints
        | .error _ => []) ∧
      ∀ hints, (s.store.fetch source).1 = .ok hints ↔
        (s.store.answerTo source).inTime? source.timeout = some hints := by
  intro s
  have hi : s.Inv := inv_empty.run ops
  refine ⟨fun h hh values => ?_, fun g hg h hh he => ?_, fun op hf => ?_, fun op h hh hf => ?_,
    fun source => ⟨?_, ?_, fun hints => Store.fetch_eq_ok_iff ..⟩⟩
  · have hs : s.store.snapshot h.source.snapshot =
        lastValues (·.origin = h.origin) (empty.trace ops) :=
      (snapshot_run inv_empty ops (List.mem_map_of_mem hh)).trans Option.or_none
    rw [Store.known_eq_some_iff, hs]
  · have hk : g.kin = h.kin := hi.clones _ (List.mem_map_of_mem hg) _ (List.mem_map_of_mem hh) he
    have hp : g.source.provider = h.source.provider := congrArg Kin.provider hk
    have hs : g.source.snapshot = h.source.snapshot := congrArg Kin.snapshot hk
    exact Store.known_congr (by rw [hp]) (by rw [hs])
  · funext k
    rw [snapshot_step, lastValues_eq_none_iff.mpr fun r hr _ => hf r hr, Option.none_or]
  · have hk := s.kins_subset_kins_run [op] (List.mem_map_of_mem hh)
    exact snapshot_run_of_fails hi [op] hk (by simpa [trace, Handle.kin] using hf)
  · rw [Store.hints_eq]
  · rw [Store.hints_eq]
    cases (s.store.fetch source).1 <;> rfl

/-- A provider that offers a value, then another one after three seconds, and then fails. -/
def wavering : Provider where
  name := "platform"
  answer
    | 0 => .offers [{ value := "mysql" }] 10
    | 1 => .offers [{ value := "redis" }] 3000
    | _ => .fails "connection refused" 0

/-- Two requests through a source, the second of which is answered too late, and a clone that would
have had the patience. -/
def impatient : List Operation :=
  [.create wavering, .clone 0, .setTimeout 1 5000, .fetch 0, .fetch 0]

theorem known_after_run_impatient :
    let s := empty.run impatient
    s.store.known ⟨0, 0, 5000⟩ = some ["mysql"] ∧
      s.store.known ⟨0, 0, 2000⟩ = s.store.known ⟨0, 0, 5000⟩ ∧
      (s.step (.fetch 1)).store.snapshot = s.store.snapshot := by
  have hold : (⟨⟨0, 0, 2000⟩, 0⟩ : Handle) ∈ (empty.run impatient).handles :=
    List.mem_of_getElem? (i := 0) rfl
  have hnew : (⟨⟨0, 0, 5000⟩, 0⟩ : Handle) ∈ (empty.run impatient).handles :=
    List.mem_of_getElem? (i := 1) rfl
  obtain ⟨hknown, hclones, hfails, -⟩ := known_after_run impatient
  refine ⟨(hknown _ hnew _).mpr ⟨by decide, .inr ⟨rfl, rfl⟩⟩, hclones _ hold _ hnew rfl,
    hfails (.fetch 1) fun r hr => ?_⟩
  obtain rfl := List.mem_singleton.mp hr
  rfl

end Session

end TypedManifest
