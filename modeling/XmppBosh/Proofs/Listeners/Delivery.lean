import Mathlib.Data.List.Enum
import XmppBosh.Proofs.Listeners.Registries

/-!
# Who hears an event

An event goes to the listeners that are there when it is announced. While they are called they may register others.

* `Registry.addAll`, `Registry.numbered` : some more listeners, and their registrations;
* `Visit`, `Visits` : calls of listeners, one after the other;
* `Registering`, `visits_deliver` : listeners that do nothing to the registry but register others are called one
  after the other;
* `emit_visits` : every listener that is there hears an event once, and stays unless it says that it is through.
-/

namespace XmppBosh

variable {α σ : Type}

/-! ## Registrations -/

namespace Registry

def addAll (as : List α) (r : Registry α) : Registry α := as.foldl (fun r a => r.add a) r

/-- The registrations of some listeners, the first of which has this number. -/
def numbered (first : Nat) (as : List α) : List (Nat × α) := (as.zipIdx first).map Prod.swap

theorem addAll_eq (as : List α) (r : Registry α) :
    r.addAll as = { entries := r.entries ++ numbered r.next as, next := r.next + as.length } := by
  induction as generalizing r with
  | nil => simp [addAll, numbered]
  | cons a as ih =>
    have hstep : r.addAll (a :: as) = (r.add a).addAll as := rfl
    rw [hstep, ih]
    simp [add, numbered, Nat.add_assoc, Nat.add_comm 1]

theorem addAll_append (as bs : List α) (r : Registry α) : r.addAll (as ++ bs) = (r.addAll as).addAll bs :=
  List.foldl_append

theorem le_of_mem_numbered {first : Nat} {as : List α} {e : Nat × α} (h : e ∈ numbered first as) : first ≤ e.1 := by
  obtain ⟨⟨a, n⟩, hmem, rfl⟩ := List.mem_map.1 h
  exact (List.mem_zipIdx hmem).1

end Registry

/-! ## Visits -/

/-- A call of a listener: under which number it is registered, the states before and after, what it says, and whom it
registers meanwhile. -/
structure Visit (σ α : Type) where
  number : Nat
  listener : α
  before : σ
  after : σ
  verdict : Verdict
  registered : List α

def Visit.entry (v : Visit σ α) : Nat × α := (v.number, v.listener)

variable {get : σ → Registry α} {set : (Registry α → Registry α) → σ → σ} {present : σ → α → Bool}
  {call : α → σ → σ × Verdict} {s t : σ} {es : List (Nat × α)} {vs : List (Visit σ α)}

/-- Calls of listeners one after the other, from one state to another. -/
inductive Visits (get : σ → Registry α) (call : α → σ → σ × Verdict) : σ → List (Visit σ α) → σ → Prop
  | nobody (s : σ) : Visits get call s [] s
  | next {v : Visit σ α} {vs : List (Visit σ α)} {t : σ} (called : call v.listener v.before = (v.after, v.verdict))
      (registered : get v.after = (get v.before).addAll v.registered) (rest : Visits get call v.after vs t) :
      Visits get call v.before (v :: vs) t

/-- The listeners that are called do nothing to the registry but register others. -/
def Registering (get : σ → Registry α) (call : α → σ → σ × Verdict) : List (Nat × α) → σ → Prop
  | [], _ => True
  | e :: es, s => (∃ as, get (call e.2 s).1 = (get s).addAll as) ∧ Registering get call es (call e.2 s).1

theorem visits_deliver (h : Registering get call es s) : ∃ vs, Visits get call s vs (deliver call es s).1 ∧
    vs.map Visit.entry = es ∧ (deliver call es s).2 = vs.map fun v => (v.number, v.verdict) := by
  induction es generalizing s with
  | nil => exact ⟨[], .nobody s, rfl, rfl⟩
  | cons e es ih =>
    obtain ⟨⟨as, has⟩, hrest⟩ := h
    obtain ⟨vs, hvs, hentries, hverdicts⟩ := ih hrest
    let v : Visit σ α := ⟨e.1, e.2, s, (call e.2 s).1, (call e.2 s).2, as⟩
    refine ⟨v :: vs, .next (v := v) rfl has hvs, ?_, ?_⟩
    · rw [List.map_cons, hentries]
      rfl
    · rw [List.map_cons, ← hverdicts]
      rfl

theorem Visits.called (h : Visits get call s vs t) {v : Visit σ α} (hv : v ∈ vs) :
    call v.listener v.before = (v.after, v.verdict) := by
  induction h with
  | nobody => cases hv
  | next called _ _ ih =>
    rcases List.mem_cons.1 hv with rfl | hv
    · exact called
    · exact ih hv

theorem Visits.registry (h : Visits get call s vs t) : get t = (get s).addAll (vs.flatMap Visit.registered) := by
  induction h with
  | nobody => rfl
  | next _ registered _ ih => rw [ih, registered, List.flatMap_cons, Registry.addAll_append]

/-- Of listeners with numbers of their own, those are through that have said so. -/
theorem mem_closedIds_iff (hnodup : (vs.map Visit.number).Nodup) {v : Visit σ α} (hv : v ∈ vs) :
    v.number ∈ closedIds (vs.map fun v => (v.number, v.verdict)) ↔ v.verdict = .closed := by
  simp only [closedIds, List.mem_map, List.mem_filter, decide_eq_true_iff]
  constructor
  · rintro ⟨_, ⟨⟨u, hu, rfl⟩, hclosed⟩, hnumber⟩
    obtain rfl := List.inj_on_of_nodup_map hnodup hu hv hnumber
    exact hclosed
  · intro hclosed
    exact ⟨_, ⟨⟨v, hv, rfl⟩, hclosed⟩, rfl⟩

/-- What becomes of a registry with an event. The listeners that are there are called one after the other. Those
of them stay that do not say that they are through, in their order, and then come those that were registered. -/
theorem emit_visits (hw : Registry.Within get set) (hn : (get s).Numbered)
    (h : Registering get call ((get s).prune (present s)).entries (set (Registry.prune (present s)) s)) :
    ∃ vs t, Visits get call (set (Registry.prune (present s)) s) vs t ∧
      vs.map Visit.entry = (get s).entries.filter (fun e => present s e.2) ∧
      emit get set present call s =
        (set (Registry.retire ((vs.filter fun v => v.verdict = .closed).map Visit.number)) t,
          vs.map Visit.verdict) ∧
      get (emit get set present call s).1 =
        { entries := (vs.filter fun v => v.verdict ≠ .closed).map Visit.entry ++
            Registry.numbered (get s).next (vs.flatMap Visit.registered)
          next := (get s).next + (vs.flatMap Visit.registered).length } := by
  obtain ⟨vs, hvs, hentries, hverdicts⟩ := visits_deliver h
  have hregistry := hvs.registry
  have hkept : ((get s).prune (present s)).Numbered := hn.sift _
  have hclosed : ∀ n ∈ closedIds (vs.map fun v => (v.number, v.verdict)), n < (get s).next := fun n hmem =>
    hkept.lt_of_mem (mem_of_mem_closedIds (hverdicts ▸ hmem))
  have hnumbers : (vs.map Visit.number).Nodup := by
    have hsame : vs.map Visit.number = ((get s).prune (present s)).entries.map Prod.fst := by
      rw [← hentries, List.map_map]
      rfl
    rw [hsame]
    exact hkept.nodup
  simp only [emit, hw.prune]
  refine ⟨vs, _, hvs, hentries, ?_, ?_⟩
  · simp only [hverdicts, closedIds, List.filter_map, List.map_map]
    rfl
  · rw [hw.retire, hregistry, hw.prune, Registry.addAll_eq, hverdicts]
    simp only [Registry.retire, List.filter_append]
    congr 2
    · rw [← hentries, List.filter_map]
      congr 1
      refine List.filter_congr fun v hv => ?_
      have := mem_closedIds_iff hnumbers hv
      simp [Visit.entry, this]
    · -- Who was registered meanwhile has a new number.
      refine List.filter_eq_self.2 fun e he => ?_
      have hne : e.1 ∉ closedIds (vs.map fun v => (v.number, v.verdict)) := fun hmem =>
        Nat.not_lt.2 (Registry.le_of_mem_numbered he) (hclosed _ hmem)
      simpa using hne

end XmppBosh
