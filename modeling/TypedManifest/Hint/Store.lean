import TypedManifest.Hint.Basic
import TypedManifest.Log

/-!
# Sources of hints

A *provider* answers requests for hints, one after the other. It may answer at once or late, with
hints or with a failure, or never; and apart from that it may or may not say, without delay, which
values it knows.

A *source* is a handle on a provider: it bounds every request by its timeout, and it shares with its
clones a *snapshot*, the values of the last request that succeeded. What is known through a source
is what the provider says that it knows, or else the snapshot; nothing is known through an empty
list.

Providers and snapshots change, so they live in a `Store`; sources do not, so they may be part of a
type. The operations on a store are `add` (a provider with a source of its own), `fetch`, `hints`
and `setKnown`; a clone of a source is the source itself with another timeout.
-/

namespace TypedManifest

/-- How a provider deals with one request. -/
inductive Answer where
  /-- It offers these hints after so many milliseconds. -/
  | offers (hints : List Hint) (delay : Nat)
  /-- It fails with this reason after so many milliseconds. -/
  | fails (reason : String) (delay : Nat)
  /-- It never answers. -/
  | hangs
  deriving DecidableEq, Repr

/-- A provider of hints. -/
structure Provider where
  /-- The name it goes by in messages. -/
  name : String
  /-- Its answer to the request number `n`. -/
  answer : Nat → Answer
  /-- How many requests it has had. -/
  asked : Nat := 0
  /-- The values that it says it knows, if it says so. -/
  known : Option (List String) := none

/-- A provider of a fixed list, which it also knows. -/
def Provider.fixed (name : String) (hints : List Hint) : Provider where
  name := name
  answer := fun _ => .offers hints 0
  known := some (hints.map Hint.value)

/-- A handle on a provider. -/
structure Source where
  /-- Which provider. -/
  provider : Nat
  /-- Which snapshot; clones share it. -/
  snapshot : Nat
  /-- How many milliseconds a request may take. -/
  timeout : Nat
  deriving DecidableEq, Repr

/-- The timeout of a source for which none is set. -/
def Source.defaultTimeout : Nat := 2000

/-- The state of all providers and all snapshots. -/
structure Store where
  /-- The providers, by number. -/
  provider : Nat → Provider
  /-- The snapshots, by number: the values of the last successful request. -/
  snapshot : Nat → Option (List String)
  /-- How many providers and snapshots are in use; their numbers lie below. -/
  size : Nat

namespace Store

/-- The store without sources. -/
def empty : Store where
  provider := fun _ => { name := "", answer := fun _ => .hangs }
  snapshot := fun _ => none
  size := 0

instance : Inhabited Store := ⟨empty⟩

/-- Put a provider in the place of provider number `i`. -/
def putProvider (σ : Store) (i : Nat) (p : Provider) : Store :=
  { σ with provider := fun j => if j = i then p else σ.provider j }

/-- Put values in the place of snapshot number `i`. -/
def putSnapshot (σ : Store) (i : Nat) (values : List String) : Store :=
  { σ with snapshot := fun j => if j = i then some values else σ.snapshot j }

/-- Add a provider, together with a source for it whose snapshot is its own. -/
def add (σ : Store) (p : Provider) (timeout : Nat := Source.defaultTimeout) : Source × Store :=
  (⟨σ.size, σ.size, timeout⟩, { σ.putProvider σ.size p with size := σ.size + 1 })

/-- Change what the provider of a source says that it knows. -/
def setKnown (σ : Store) (s : Source) (known : Option (List String)) : Store :=
  σ.putProvider s.provider { σ.provider s.provider with known }

/-- The name of the provider behind a source. -/
def nameOf (σ : Store) (s : Source) : String := (σ.provider s.provider).name

/-- The values known through a source: those that the provider says it knows, or else the snapshot.
An empty list counts as nothing known. -/
def known (σ : Store) (s : Source) : Option (List String) :=
  ((σ.provider s.provider).known <|> σ.snapshot s.snapshot).filter (!·.isEmpty)

/-- Request hints through a source. Whatever happens, the provider has had one request more. Only
hints that arrive in time replace the snapshot. -/
def fetch (σ : Store) (s : Source) : Except HintError (List Hint) × Store :=
  let p := σ.provider s.provider
  let σ' := σ.putProvider s.provider { p with asked := p.asked + 1 }
  match p.answer p.asked with
  | .offers hints delay =>
    if delay ≤ s.timeout then (.ok hints, σ'.putSnapshot s.snapshot (hints.map Hint.value))
    else (.error (.timedOut p.name s.timeout), σ')
  | .fails reason delay =>
    if delay ≤ s.timeout then (.error (.unavailable p.name reason), σ')
    else (.error (.timedOut p.name s.timeout), σ')
  | .hangs => (.error (.timedOut p.name s.timeout), σ')

/-- Request hints through a source, and make do without any when the request fails. The failure is
put on record. -/
def hints (σ : Store) (s : Source) : (List Hint × List LogEntry) × Store :=
  match σ.fetch s with
  | (.ok hints, σ') => ((hints, []), σ')
  | (.error e, σ') => (([], [.sourceFailed (σ.nameOf s) e]), σ')

/-- Request hints through several sources, one after the other. -/
def hintsOfAll (σ : Store) : List Source → (List Hint × List LogEntry) × Store
  | [] => (([], []), σ)
  | s :: rest =>
    let ((hints, log), σ') := σ.hints s
    let ((hints', log'), σ'') := hintsOfAll σ' rest
    ((hints ++ hints', log ++ log'), σ'')

end Store

end TypedManifest
