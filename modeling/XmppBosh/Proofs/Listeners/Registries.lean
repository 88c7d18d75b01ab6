import Mathlib.Data.List.Nodup
import XmppBosh.Listeners.Registry

/-!
# Registrations and calls

* `Registry.sift` : a registry without some of its registrations; `Registry.Numbered` : every registration has a
  number of its own;
* `Registry.Within` : a registry of a larger state;
* `deliver_induction`, `emit_induction` : what every call of a listener keeps, an event for all of them keeps;
* `called_of_mem_closedIds` : a listener that is through was called and has said so.
-/

namespace XmppBosh

variable {α σ : Type} {P : σ → Prop}

namespace Registry

variable {r : Registry α}

theorem toList_prune_subset (present : α → Bool) (r : Registry α) :
    (r.prune present).toList ⊆ r.toList := by
  rw [toList_prune]
  exact List.filter_sublist.subset

theorem prune_eq_self {present : α → Bool} {r : Registry α} (h : ∀ a ∈ r.toList, present a) :
    r.prune present = r := by
  have hall : r.entries.filter (fun e => present e.2) = r.entries :=
    List.filter_eq_self.2 fun e he => h e.2 (List.mem_map_of_mem he)
  rw [prune, hall]

theorem retire_nil (r : Registry α) : r.retire [] = r := by
  have hall : r.entries.filter (fun e => !([] : List Nat).contains e.1) = r.entries :=
    List.filter_eq_self.2 fun _ _ => rfl
  rw [retire, hall]

/-- The registry without some registrations. -/
def sift (p : Nat × α → Bool) (r : Registry α) : Registry α := { r with entries := r.entries.filter p }

theorem sift_true (r : Registry α) : r.sift (fun _ => true) = r := by
  rw [sift, List.filter_true]

/-- Every registration has a number of its own, and the next one is new. -/
structure Numbered (r : Registry α) : Prop where
  nodup : (r.entries.map Prod.fst).Nodup
  bounded : ∀ e ∈ r.entries, e.1 < r.next

theorem numbered_empty : ({} : Registry α).Numbered := ⟨List.nodup_nil, List.forall_mem_nil _⟩

theorem Numbered.add (h : r.Numbered) (a : α) : (r.add a).Numbered := by
  refine ⟨?_, ?_⟩
  · rw [Registry.add, List.map_append, List.map_singleton, List.nodup_append]
    refine ⟨h.nodup, List.pairwise_singleton .., fun n hn m hm => ?_⟩
    obtain ⟨e, he, rfl⟩ := List.mem_map.1 hn
    obtain rfl := List.mem_singleton.1 hm
    exact Nat.ne_of_lt (h.bounded e he)
  · rw [Registry.add, List.forall_mem_append, List.forall_mem_singleton]
    exact ⟨fun e he => Nat.lt_succ_of_lt (h.bounded e he), Nat.lt_succ_self _⟩

theorem Numbered.sift (h : r.Numbered) (p : Nat × α → Bool) : (r.sift p).Numbered :=
  ⟨h.nodup.sublist (List.filter_sublist.map _), fun e he => h.bounded e (List.filter_sublist.subset he)⟩

theorem Numbered.eq_of_number (h : r.Numbered) {n : Nat} {a b : α} (ha : (n, a) ∈ r.entries)
    (hb : (n, b) ∈ r.entries) : a = b :=
  congrArg Prod.snd (List.inj_on_of_nodup_map h.nodup ha hb rfl)

theorem Numbered.lt_of_mem (h : r.Numbered) {n : Nat} (hn : n ∈ r.entries.map Prod.fst) : n < r.next := by
  obtain ⟨e, he, rfl⟩ := List.mem_map.1 hn
  exact h.bounded e he

/-- A registry of a larger state: `get` finds it, and when `set` drops listeners, it is from this one. -/
structure Within (get : σ → Registry α) (set : (Registry α → Registry α) → σ → σ) : Prop where
  prune : ∀ present s, get (set (Registry.prune present) s) = (get s).prune present
  retire : ∀ ids s, get (set (Registry.retire ids) s) = (get s).retire ids

end Registry

/-! ## Calls -/

theorem deliver_induction {call : α → σ → σ × Verdict} {es : List (Nat × α)} {s : σ} (hs : P s)
    (hcall : ∀ e ∈ es, ∀ s, P s → P (call e.2 s).1) : P (deliver call es s).1 := by
  induction es generalizing s with
  | nil => exact hs
  | cons e es ih =>
    rw [List.forall_mem_cons] at hcall
    exact ih (hcall.1 s hs) hcall.2

/-- What dropping listeners and calling those in the registry keeps, an event for all of them keeps. -/
theorem emit_induction {get : σ → Registry α} {set : (Registry α → Registry α) → σ → σ}
    {present : σ → α → Bool} {call : α → σ → σ × Verdict} {s : σ}
    (hprune : P (set (Registry.prune (present s)) s))
    (hcall : ∀ a ∈ (get (set (Registry.prune (present s)) s)).toList, ∀ s, P s → P (call a s).1)
    (hretire : ∀ ids s, P s → P (set (Registry.retire ids) s)) : P (emit get set present call s).1 :=
  hretire _ _ (deliver_induction hprune fun e he => hcall e.2 (List.mem_map_of_mem he))

theorem mem_closedIds_cons {call : α → σ → σ × Verdict} {e : Nat × α} {es : List (Nat × α)} {s : σ} {n : Nat} :
    n ∈ closedIds (deliver call (e :: es) s).2 ↔
      n = e.1 ∧ (call e.2 s).2 = .closed ∨ n ∈ closedIds (deliver call es (call e.2 s).1).2 := by
  simp only [closedIds, deliver, List.filter_cons]
  by_cases hclosed : (call e.2 s).2 = .closed <;> simp [hclosed]

theorem called_of_mem_closedIds {call : α → σ → σ × Verdict} {es : List (Nat × α)} {s : σ} {n : Nat} (hs : P s)
    (hcall : ∀ e ∈ es, ∀ s, P s → P (call e.2 s).1)
    (hn : n ∈ closedIds (deliver call es s).2) : ∃ a s', (n, a) ∈ es ∧ P s' ∧ (call a s').2 = .closed := by
  induction es generalizing s with
  | nil => cases hn
  | cons e es ih =>
    rw [List.forall_mem_cons] at hcall
    rcases mem_closedIds_cons.1 hn with ⟨rfl, hclosed⟩ | hrest
    · exact ⟨e.2, s, List.mem_cons_self, hs, hclosed⟩
    · obtain ⟨a, s', hmem, h⟩ := ih (hcall.1 s hs) hcall.2 hrest
      exact ⟨a, s', List.mem_cons_of_mem _ hmem, h⟩

theorem mem_of_mem_closedIds {call : α → σ → σ × Verdict} {es : List (Nat × α)} {s : σ} {n : Nat}
    (hn : n ∈ closedIds (deliver call es s).2) : n ∈ es.map Prod.fst := by
  obtain ⟨a, -, hmem, -⟩ := called_of_mem_closedIds (P := fun _ => True) trivial (fun _ _ _ _ => trivial) hn
  exact List.mem_map_of_mem hmem

theorem deliver_append (call : α → σ → σ × Verdict) (es es' : List (Nat × α)) (s : σ) :
    (deliver call (es ++ es') s).1 = (deliver call es' (deliver call es s).1).1 := by
  induction es generalizing s with
  | nil => rfl
  | cons e es ih => exact ih _

end XmppBosh
