/-!
# Registries of listeners

A registry keeps the listeners for one kind of event in the order in which they registered.

* `Registry.add` : one more listener, at the end; each registration has a number of its own;
* `deliver` : calls listeners one after the other, threading a state that they may change;
* `emit` : one event for one registry of a larger state: listeners that are gone are dropped first,
  those that are there are called, and those that say that they are through are dropped at the end.
  Listeners that register meanwhile are not called for this event.
-/

namespace XmppBosh

/-- Listeners in the order of registration, each under a number of its own. -/
structure Registry (α : Type) where
  entries : List (Nat × α) := []
  next : Nat := 0

/-- What a listener says after it has been called. -/
inductive Verdict where
  | ok
  /-- It failed, which concerns nobody else. -/
  | failed (why : String)
  /-- It is through and is not to be called again. -/
  | closed
  deriving DecidableEq

namespace Registry

variable {α σ : Type}

def add (a : α) (r : Registry α) : Registry α :=
  { entries := r.entries ++ [(r.next, a)], next := r.next + 1 }

def prune (present : α → Bool) (r : Registry α) : Registry α :=
  { r with entries := r.entries.filter fun e => present e.2 }

def retire (ids : List Nat) (r : Registry α) : Registry α :=
  { r with entries := r.entries.filter fun e => !ids.contains e.1 }

def toList (r : Registry α) : List α := r.entries.map Prod.snd

@[simp] theorem toList_add (a : α) (r : Registry α) : (r.add a).toList = r.toList ++ [a] := by
  simp [add, toList]

@[simp] theorem toList_prune (present : α → Bool) (r : Registry α) :
    (r.prune present).toList = r.toList.filter present := by
  simp [prune, toList, List.filter_map, Function.comp_def]

end Registry

variable {α σ : Type}

/-- Calls listeners one after the other, and what each of them says. -/
def deliver (call : α → σ → σ × Verdict) : List (Nat × α) → σ → σ × List (Nat × Verdict)
  | [], s => (s, [])
  | (id, a) :: rest, s =>
    let (s, verdict) := call a s
    let (s, verdicts) := deliver call rest s
    (s, (id, verdict) :: verdicts)

/-- The numbers of the listeners that are through. -/
def closedIds (verdicts : List (Nat × Verdict)) : List Nat :=
  (verdicts.filter fun v => v.2 = .closed).map Prod.fst

/-- One event for the registry that `get` finds and `set` changes. -/
def emit (get : σ → Registry α) (set : (Registry α → Registry α) → σ → σ) (present : σ → α → Bool)
    (call : α → σ → σ × Verdict) (s : σ) : σ × List Verdict :=
  let s := set (Registry.prune (present s)) s
  let (s, verdicts) := deliver call (get s).entries s
  (set (Registry.retire (closedIds verdicts)) s, verdicts.map Prod.snd)

end XmppBosh
