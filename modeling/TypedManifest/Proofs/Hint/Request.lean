import TypedManifest.Hint.Store

/-!
# What a request does to a store

A request succeeds when the provider offers hints before the source loses patience. Whatever comes
of it, the provider has had one request more and is otherwise the same, and no snapshot but the one
of the source can change; that one changes exactly when the request succeeds, and then holds the
values that were offered.
-/

namespace TypedManifest

/-- The hints of an answer, if it brings any within the timeout. -/
def Answer.inTime? (timeout : Nat) : Answer → Option (List Hint)
  | .offers hints delay => if delay ≤ timeout then some hints else none
  | .fails .. | .hangs => none

namespace Store

/-- How the provider of a source will deal with the next request. -/
def answerTo (σ : Store) (s : Source) : Answer :=
  (σ.provider s.provider).answer (σ.provider s.provider).asked

/-- The values that a request through a source brings, if it succeeds. -/
def valuesFor (σ : Store) (s : Source) : Option (List String) :=
  (σ.fetch s).1.toOption.map (·.map Hint.value)

variable (σ : Store) (s : Source)

/-- What a request leaves behind, whatever comes of it. -/
theorem fetch_snd : (σ.fetch s).2 =
    { σ.putProvider s.provider { σ.provider s.provider with
        asked := (σ.provider s.provider).asked + 1 } with
      snapshot := fun k => if k = s.snapshot then (σ.valuesFor s).or (σ.snapshot k)
        else σ.snapshot k } := by
  simp only [valuesFor, fetch]
  cases (σ.provider s.provider).answer (σ.provider s.provider).asked with
  | offers hints delay =>
    by_cases h : delay ≤ s.timeout
    · simp [Except.toOption, h, putSnapshot, putProvider]
    · simp [Except.toOption, h, putProvider]
  | fails reason delay => by_cases h : delay ≤ s.timeout <;> simp [Except.toOption, h, putProvider]
  | hangs => simp [Except.toOption, putProvider]

/-- A request succeeds exactly when hints arrive in time, and it succeeds with those. -/
theorem fetch_eq_ok_iff {hints : List Hint} :
    (σ.fetch s).1 = .ok hints ↔ (σ.answerTo s).inTime? s.timeout = some hints := by
  simp only [fetch, answerTo]
  cases (σ.provider s.provider).answer (σ.provider s.provider).asked with
  | offers hints delay => by_cases h : delay ≤ s.timeout <;> simp [Answer.inTime?, h]
  | fails reason delay => by_cases h : delay ≤ s.timeout <;> simp [Answer.inTime?, h]
  | hangs => simp [Answer.inTime?]

theorem snapshot_fetch (k : Nat) : (σ.fetch s).2.snapshot k =
    if k = s.snapshot then (σ.valuesFor s).or (σ.snapshot k) else σ.snapshot k := by
  rw [fetch_snd]

@[simp] theorem size_fetch : (σ.fetch s).2.size = σ.size := by rw [fetch_snd]; rfl

theorem provider_fetch (i : Nat) : (σ.fetch s).2.provider i =
    if i = s.provider then { σ.provider i with asked := (σ.provider i).asked + 1 }
    else σ.provider i := by
  rw [fetch_snd]
  by_cases h : i = s.provider
  · subst h; simp [putProvider]
  · simp [putProvider, h]

/-- A request does not change what a provider says that it knows. -/
@[simp] theorem known_provider_fetch (i : Nat) :
    ((σ.fetch s).2.provider i).known = (σ.provider i).known := by
  rw [provider_fetch]; split <;> rfl

@[simp] theorem answer_provider_fetch (i : Nat) :
    ((σ.fetch s).2.provider i).answer = (σ.provider i).answer := by
  rw [provider_fetch]; split <;> rfl

/-- Making do without hints is all that sets `hints` apart from `fetch`. -/
theorem hints_eq : σ.hints s = (match (σ.fetch s).1 with
    | .ok hints => (hints, [])
    | .error e => ([], [.sourceFailed (σ.nameOf s) e]), (σ.fetch s).2) := by
  unfold hints
  rcases σ.fetch s with ⟨_ | hints, σ'⟩ <;> rfl

variable {σ} in
/-- Making do without hints does to a store what the requests do to it. -/
theorem hintsOfAll_snd (ss : List Source) :
    (σ.hintsOfAll ss).2 = ss.foldl (fun σ s => (σ.fetch s).2) σ := by
  induction ss generalizing σ with
  | nil => rfl
  | cons s ss ih => simp only [hintsOfAll, ih, hints_eq, List.foldl_cons]

/-- What is known through a source: what its provider says, or else the snapshot, but no empty
list. -/
theorem known_eq_some_iff {values : List String} : σ.known s = some values ↔ values ≠ [] ∧
    ((σ.provider s.provider).known = some values ∨
      (σ.provider s.provider).known = none ∧ σ.snapshot s.snapshot = some values) := by
  unfold known
  cases hp : (σ.provider s.provider).known <;> simp [Option.filter_eq_some_iff, and_comm]

variable {σ s} in
/-- What is known is a matter of what the provider says and of the snapshot alone. -/
theorem known_congr {τ : Store} {t : Source}
    (hp : (σ.provider s.provider).known = (τ.provider t.provider).known)
    (hs : σ.snapshot s.snapshot = τ.snapshot t.snapshot) : σ.known s = τ.known t := by
  rw [known, known, hp, hs]

end Store

end TypedManifest
