import XmppBosh.Proofs.Listeners.Registries

/-!
# Listeners that announce events when they are called

An event goes to those who are registered when it is announced. A listener that announces another event when it is
called has them called inside of its own call, and so on to any depth.

* `Happening` : what happens at a registry; `underWay` : whom the announcements under way have still to call;
  `remainder` : what happens before the innermost one is over;
* `Goes`, `Delivers` : from one state to another with registrations and announcements inside of each other, and what
  has happened;
* `Registry.Becomes`, `Goes.becomes` : listeners register after those who are there, and these keep their order;
* `Goes.numbered`, `Goes.gone` : listeners keep their numbers, and who is not registered any more stays so;
* `Goes.again`, `Goes.called_again_iff` : when a listener that has said that it is through is called again.
-/

namespace XmppBosh

variable {α σ : Type}

/-! ## What happens at a registry -/

/-- What happens at a registry. Listeners go by their numbers. -/
inductive Happening where
  /-- An event is announced to these listeners. -/
  | began (numbers : List Nat)
  | called (n : Nat)
  | returned (n : Nat) (verdict : Verdict)
  /-- All of them have been called. -/
  | ended
  deriving DecidableEq

namespace Happening

/-- Whom the announcements under way have still to call, the innermost first, after one more happening. -/
def proceed (ahead : List (List Nat)) : Happening → List (List Nat)
  | began numbers => numbers :: ahead
  | called _ => ahead.modifyHead List.tail
  | returned _ _ => ahead
  | ended => ahead.tail

def underWay (hs : List Happening) : List (List Nat) := hs.foldl proceed []

/-- What happens before the announcement under way is over, inside of so many others that have begun since. -/
def remainder : Nat → List Happening → List Happening
  | _, [] => []
  | depth, began numbers :: hs => began numbers :: remainder (depth + 1) hs
  | 0, ended :: _ => []
  | depth + 1, ended :: hs => ended :: remainder depth hs
  | depth, h :: hs => h :: remainder depth hs

variable {x : Happening} {n : Nat} {outer more : List (List Nat)} {pre post hs hs' : List Happening}

theorem eq_append_cons (h : hs ++ hs' = pre ++ x :: post) :
    (∃ mid, hs = pre ++ x :: mid ∧ post = mid ++ hs') ∨ ∃ mid, pre = hs ++ mid ∧ hs' = mid ++ x :: post := by
  rcases List.append_eq_append_iff.1 h with ⟨mid, hpre, hpost⟩ | ⟨mid, hpre, hpost⟩
  · exact .inr ⟨mid, hpre, hpost⟩
  · cases mid with
    | nil => exact .inr ⟨[], by simpa using hpre.symm, hpost.symm⟩
    | cons y mid =>
      obtain ⟨rfl, rfl⟩ := List.cons.inj hpost
      exact .inl ⟨mid, hpre, rfl⟩

theorem called_mem_event {numbers : List Nat} : called n ∈ began numbers :: (hs ++ [ended]) ↔ called n ∈ hs := by
  simp

theorem began_mem_event {numbers others : List Nat} :
    began others ∈ began numbers :: (hs ++ [ended]) ↔ others = numbers ∨ began others ∈ hs := by
  simp

theorem called_mem_call {m : Nat} {verdict : Verdict} :
    called n ∈ called m :: (hs ++ returned m verdict :: hs') ↔ n = m ∨ called n ∈ hs ∨ called n ∈ hs' := by
  simp

theorem began_mem_call {m : Nat} {verdict : Verdict} {numbers : List Nat} :
    began numbers ∈ called m :: (hs ++ returned m verdict :: hs') ↔ began numbers ∈ hs ∨ began numbers ∈ hs' := by
  simp

theorem mem_of_mem_remainder {depth : Nat} (h : x ∈ remainder depth hs) : x ∈ hs := by
  fun_induction remainder depth hs <;> grind

theorem mem_remainder_append {depth : Nat} (h : x ∈ remainder depth hs) : x ∈ remainder depth (hs ++ hs') := by
  fun_induction remainder depth hs <;> grind [remainder]

theorem mem_remainder_or {depth : Nat} (h : x ∈ remainder depth (hs ++ hs')) : x ∈ remainder depth hs ∨ x ∈ hs' := by
  fun_induction remainder depth hs <;> grind [remainder, mem_of_mem_remainder]

/-- A listener is called again exactly if one of these announcements has it still ahead, or another one that begins
before the one under way is over comes to it. -/
def Again (n : Nat) (outer : List (List Nat)) (post : List Happening) : Prop :=
  called n ∈ post ↔ (∃ numbers ∈ outer, n ∈ numbers) ∨ ∃ numbers, began numbers ∈ remainder 0 post ∧ n ∈ numbers

theorem Again.append (h : Again n outer post) (hbegan : ∀ numbers, began numbers ∈ hs → n ∉ numbers)
    (hcalled : called n ∈ hs ↔ ∃ numbers ∈ more, n ∈ numbers) : Again n (outer ++ more) (post ++ hs) := by
  have hsame : (∃ numbers, began numbers ∈ remainder 0 (post ++ hs) ∧ n ∈ numbers) ↔
      ∃ numbers, began numbers ∈ remainder 0 post ∧ n ∈ numbers := by
    constructor
    · rintro ⟨numbers, hmem, hn⟩
      rcases mem_remainder_or hmem with hmem | hmem
      · exact ⟨numbers, hmem, hn⟩
      · exact absurd hn (hbegan numbers hmem)
    · rintro ⟨numbers, hmem, hn⟩
      exact ⟨numbers, mem_remainder_append hmem, hn⟩
  have hmore : (∃ numbers ∈ outer ++ more, n ∈ numbers) ↔
      (∃ numbers ∈ outer, n ∈ numbers) ∨ ∃ numbers ∈ more, n ∈ numbers := by
    simp only [List.mem_append, or_and_right, exists_or]
  rw [Again] at h ⊢
  rw [List.mem_append, h, hcalled, hsame, hmore, or_right_comm]

theorem Again.append_other (h : Again n outer post) (hbegan : ∀ numbers, began numbers ∈ hs → n ∉ numbers)
    (hcalled : called n ∉ hs) : Again n outer (post ++ hs) := by
  have hmore : called n ∈ hs ↔ ∃ numbers ∈ ([] : List (List Nat)), n ∈ numbers := by simpa using hcalled
  have h' := h.append hbegan hmore
  rwa [List.append_nil] at h'

end Happening

open Happening

/-! ## Announcements inside of announcements -/

variable {get : σ → Registry α} {set : (Registry α → Registry α) → σ → σ} {present : σ → α → Bool}

mutual

/-- From one state to another, listeners have been registered and events have been announced to them, and this is
what has happened. Whatever else there is in a state may have changed. -/
inductive Goes (get : σ → Registry α) (set : (Registry α → Registry α) → σ → σ) (present : σ → α → Bool) :
    σ → List Happening → σ → Prop
  | still {s t : σ} (same : get t = get s) : Goes get set present s [] t
  | registers {s t : σ} (a : α) (added : get t = (get s).add a) : Goes get set present s [] t
  | announces {s s' : σ} {call : α → σ → σ × Verdict} {hs : List Happening}
      (pruned : set (Registry.prune (present s)) s = s')
      (calls : Delivers get set present call (get s').entries s' hs) :
      Goes get set present s (began ((get s').entries.map Prod.fst) :: (hs ++ [ended])) (emit get set present call s).1
  | trans {s t u : σ} {hs hs' : List Happening} (former : Goes get set present s hs t)
      (latter : Goes get set present t hs' u) : Goes get set present s (hs ++ hs') u

/-- Listeners have been called one after the other, and this is what has happened. -/
inductive Delivers (get : σ → Registry α) (set : (Registry α → Registry α) → σ → σ) (present : σ → α → Bool) :
    (α → σ → σ × Verdict) → List (Nat × α) → σ → List Happening → Prop
  | nobody {call : α → σ → σ × Verdict} {s : σ} : Delivers get set present call [] s []
  | next {call : α → σ → σ × Verdict} {e : Nat × α} {es : List (Nat × α)} {s : σ} {hs hs' : List Happening}
      (goes : Goes get set present s hs (call e.2 s).1) (rest : Delivers get set present call es (call e.2 s).1 hs') :
      Delivers get set present call (e :: es) s (called e.1 :: (hs ++ returned e.1 (call e.2 s).2 :: hs'))

end

variable {call : α → σ → σ × Verdict} {es : List (Nat × α)} {s t : σ} {hs : List Happening} {n : Nat}

/-! ## What is under way -/

mutual

/-- What was under way before is under way afterwards. -/
theorem Goes.foldl_proceed {s t : σ} {hs : List Happening} (ahead : List (List Nat)) :
    Goes get set present s hs t → hs.foldl proceed ahead = ahead
  | .still _ => rfl
  | .registers _ _ => rfl
  | .announces _ calls => by
    rw [List.foldl_cons, List.foldl_append, proceed, calls.foldl_proceed]
    rfl
  | .trans former latter => by rw [List.foldl_append, former.foldl_proceed, latter.foldl_proceed]

theorem Delivers.foldl_proceed {call : α → σ → σ × Verdict} {es : List (Nat × α)} {s : σ} {hs : List Happening}
    (ahead : List (List Nat)) :
    Delivers get set present call es s hs → hs.foldl proceed (es.map Prod.fst :: ahead) = [] :: ahead
  | .nobody => rfl
  | .next goes rest => by
    rw [List.foldl_cons, List.foldl_append, List.foldl_cons, goes.foldl_proceed]
    exact rest.foldl_proceed ahead

end

mutual

/-- Nothing that happens between two states ends an announcement that was under way before. -/
theorem Goes.remainder_append {s t : σ} {hs : List Happening} (depth : Nat) (hs' : List Happening) :
    Goes get set present s hs t → remainder depth (hs ++ hs') = hs ++ remainder depth hs'
  | .still _ => rfl
  | .registers _ _ => rfl
  | .announces _ calls => by
    rw [List.cons_append, remainder, List.append_assoc, calls.remainder_append]
    simp only [List.cons_append, List.nil_append, remainder, List.append_assoc]
  | .trans former latter => by
    rw [List.append_assoc, former.remainder_append, latter.remainder_append, List.append_assoc]

theorem Delivers.remainder_append {call : α → σ → σ × Verdict} {es : List (Nat × α)} {s : σ} {hs : List Happening}
    (depth : Nat) (hs' : List Happening) :
    Delivers get set present call es s hs → remainder depth (hs ++ hs') = hs ++ remainder depth hs'
  | .nobody => rfl
  | .next goes rest => by
    simp only [List.cons_append, List.append_assoc, remainder, goes.remainder_append, rest.remainder_append]

end

/-! ## Who is called -/

theorem Delivers.called_of_mem (h : Delivers get set present call es s hs) (hn : n ∈ es.map Prod.fst) :
    called n ∈ hs := by
  induction es generalizing s hs with
  | nil => cases hn
  | cons e es ih =>
    cases h with
    | next goes rest =>
      rcases List.mem_cons.1 hn with rfl | hn
      · exact List.mem_cons_self
      · exact called_mem_call.2 (.inr (.inr (ih rest hn)))

mutual

/-- Whom an event is announced to is called. -/
theorem Goes.called_of_began {s t : σ} {hs : List Happening} {n : Nat} {numbers : List Nat} :
    Goes get set present s hs t → began numbers ∈ hs → n ∈ numbers → called n ∈ hs
  | .still _ => nofun
  | .registers _ _ => nofun
  | .announces _ calls => by
    rw [began_mem_event, called_mem_event]
    rintro (rfl | hmem) hn
    · exact calls.called_of_mem hn
    · exact calls.called_of_began hmem hn
  | .trans former latter => by
    simp only [List.mem_append]
    rintro (hmem | hmem) hn
    · exact .inl (former.called_of_began hmem hn)
    · exact .inr (latter.called_of_began hmem hn)

theorem Delivers.called_of_began {call : α → σ → σ × Verdict} {es : List (Nat × α)} {s : σ} {hs : List Happening}
    {n : Nat} {numbers : List Nat} :
    Delivers get set present call es s hs → began numbers ∈ hs → n ∈ numbers → called n ∈ hs
  | .nobody => nofun
  | .next goes rest => by
    rw [began_mem_call, called_mem_call]
    rintro (hmem | hmem) hn
    · exact .inr (.inl (goes.called_of_began hmem hn))
    · exact .inr (.inr (rest.called_of_began hmem hn))

end

mutual

/-- Only those are called whom an event is announced to. -/
theorem Goes.began_of_called {s t : σ} {hs : List Happening} {n : Nat} :
    Goes get set present s hs t → called n ∈ hs → ∃ numbers, began numbers ∈ hs ∧ n ∈ numbers
  | .still _ => nofun
  | .registers _ _ => nofun
  | .announces _ calls => by
    simp only [called_mem_event, began_mem_event]
    intro hmem
    rcases calls.began_of_called hmem with hn | ⟨numbers, hmem, hn⟩
    · exact ⟨_, .inl rfl, hn⟩
    · exact ⟨numbers, .inr hmem, hn⟩
  | .trans former latter => by
    simp only [List.mem_append]
    rintro (hmem | hmem)
    · obtain ⟨numbers, hmem, hn⟩ := former.began_of_called hmem
      exact ⟨numbers, .inl hmem, hn⟩
    · obtain ⟨numbers, hmem, hn⟩ := latter.began_of_called hmem
      exact ⟨numbers, .inr hmem, hn⟩

theorem Delivers.began_of_called {call : α → σ → σ × Verdict} {es : List (Nat × α)} {s : σ} {hs : List Happening}
    {n : Nat} : Delivers get set present call es s hs → called n ∈ hs →
      n ∈ es.map Prod.fst ∨ ∃ numbers, began numbers ∈ hs ∧ n ∈ numbers
  | .nobody => nofun
  | .next goes rest => by
    rw [called_mem_call, List.map_cons, List.mem_cons]
    simp only [began_mem_call]
    rintro (rfl | hmem | hmem)
    · exact .inl (.inl rfl)
    · obtain ⟨numbers, hmem, hn⟩ := goes.began_of_called hmem
      exact .inr ⟨numbers, .inl hmem, hn⟩
    · rcases rest.began_of_called hmem with hn | ⟨numbers, hmem, hn⟩
      · exact .inl (.inr hn)
      · exact .inr ⟨numbers, .inr hmem, hn⟩

end

/-! ## Who is still there -/

theorem get_emit (hw : Registry.Within get set) {s' : σ} (pruned : set (Registry.prune (present s)) s = s') :
    get (emit get set present call s).1 = (get (deliver call (get s').entries s').1).retire
      (closedIds (deliver call (get s').entries s').2) := by
  subst pruned
  simp only [emit, hw.retire]

theorem Registry.Within.pruned (hw : Registry.Within get set) {s' : σ}
    (pruned : set (Registry.prune (present s)) s = s') : get s' = (get s).sift fun e => present s e.2 := by
  rw [← pruned, hw.prune]
  rfl

/-- A registry has become another one. Of the registrations that there were, some may be gone, and the others are in
the same order. -/
structure Registry.Becomes (r r' : Registry α) : Prop where
  next : r.next ≤ r'.next
  old : (r'.entries.filter fun e => decide (e.1 < r.next)).Sublist r.entries

namespace Registry

variable {r r' r'' : Registry α}

theorem Becomes.refl (r : Registry α) : r.Becomes r := ⟨Nat.le_refl _, List.filter_sublist⟩

theorem Becomes.trans (h : r.Becomes r') (h' : r'.Becomes r'') : r.Becomes r'' := by
  refine ⟨Nat.le_trans h.next h'.next, ?_⟩
  have hfilter : r''.entries.filter (fun e => decide (e.1 < r.next)) =
      (r''.entries.filter fun e => decide (e.1 < r'.next)).filter fun e => decide (e.1 < r.next) := by
    rw [List.filter_filter]
    refine List.filter_congr fun e _ => ?_
    have hle := h.next
    rw [Bool.eq_iff_iff, Bool.and_eq_true, decide_eq_true_iff, decide_eq_true_iff]
    omega
  rw [hfilter]
  exact (h'.old.filter _).trans h.old

theorem becomes_add (a : α) (r : Registry α) : r.Becomes (r.add a) := by
  refine ⟨Nat.le_succ _, ?_⟩
  rw [add, List.filter_append, List.filter_cons_of_neg (by simp), List.filter_nil, List.append_nil]
  exact List.filter_sublist

theorem becomes_sift (p : Nat × α → Bool) (r : Registry α) : r.Becomes (r.sift p) :=
  ⟨Nat.le_refl _, List.filter_sublist.trans List.filter_sublist⟩

end Registry

mutual

theorem Goes.becomes (hw : Registry.Within get set) {s t : σ} {hs : List Happening} :
    Goes get set present s hs t → (get s).Becomes (get t)
  | .still same => same ▸ .refl _
  | .registers a added => added ▸ Registry.becomes_add a _
  | .announces pruned calls => by
    have hpruned := Registry.becomes_sift (fun e => present s e.2) (get s)
    rw [← hw.pruned pruned] at hpruned
    rw [get_emit hw pruned]
    exact (hpruned.trans (calls.becomes hw)).trans (Registry.becomes_sift _ _)
  | .trans former latter => (former.becomes hw).trans (latter.becomes hw)

theorem Delivers.becomes (hw : Registry.Within get set) {call : α → σ → σ × Verdict} {es : List (Nat × α)} {s : σ}
    {hs : List Happening} : Delivers get set present call es s hs → (get s).Becomes (get (deliver call es s).1)
  | .nobody => .refl _
  | .next goes rest => (goes.becomes hw).trans (rest.becomes hw)

end

mutual

theorem Goes.numbered (hw : Registry.Within get set) {s t : σ} {hs : List Happening} :
    Goes get set present s hs t → (get s).Numbered → (get t).Numbered
  | .still same => fun hn => same ▸ hn
  | .registers a added => fun hn => added ▸ hn.add a
  | .announces pruned calls => fun hn => by
    rw [get_emit hw pruned]
    exact (calls.numbered hw (hw.pruned pruned ▸ hn.sift _)).sift _
  | .trans former latter => fun hn => latter.numbered hw (former.numbered hw hn)

theorem Delivers.numbered (hw : Registry.Within get set) {call : α → σ → σ × Verdict} {es : List (Nat × α)} {s : σ}
    {hs : List Happening} :
    Delivers get set present call es s hs → (get s).Numbered → (get (deliver call es s).1).Numbered
  | .nobody => fun hn => hn
  | .next goes rest => fun hn => rest.numbered hw (goes.numbered hw hn)

end

/-! ## Who is not called -/

/-- A listener was registered under this number, and is not any more. -/
structure Registry.Gone (n : Nat) (r : Registry α) : Prop where
  old : n < r.next
  gone : n ∉ r.entries.map Prod.fst

theorem Registry.Gone.add {r : Registry α} (h : r.Gone n) (a : α) : (r.add a).Gone n := by
  refine ⟨Nat.lt_succ_of_lt h.old, ?_⟩
  rw [Registry.add, List.map_append, List.map_singleton, List.mem_append, List.mem_singleton, not_or]
  exact ⟨h.gone, Nat.ne_of_lt h.old⟩

theorem Registry.Gone.sift {r : Registry α} (h : r.Gone n) (p : Nat × α → Bool) : (r.sift p).Gone n :=
  ⟨h.old, fun hmem => h.gone (List.map_subset _ List.filter_sublist.subset hmem)⟩

mutual

/-- A listener that is not registered any more stays so, and no event is announced to it. -/
theorem Goes.gone (hw : Registry.Within get set) {s t : σ} {hs : List Happening} {n : Nat} :
    Goes get set present s hs t → (get s).Gone n → (get t).Gone n ∧ ∀ numbers, began numbers ∈ hs → n ∉ numbers
  | .still same => fun hn => ⟨same ▸ hn, nofun⟩
  | .registers a added => fun hn => ⟨added ▸ hn.add a, nofun⟩
  | .announces pruned calls => fun hn => by
    have hpruned := hn.sift fun e => present s e.2
    rw [← hw.pruned pruned] at hpruned
    obtain ⟨hdelivered, hbegan⟩ := calls.gone hw hpruned
    refine ⟨?_, fun numbers hmem => ?_⟩
    · rw [get_emit hw pruned]
      exact hdelivered.sift _
    · rcases began_mem_event.1 hmem with rfl | hmem
      · exact hpruned.gone
      · exact hbegan numbers hmem
  | .trans former latter => fun hn => by
    obtain ⟨hmid, hformer⟩ := former.gone hw hn
    obtain ⟨hend, hlatter⟩ := latter.gone hw hmid
    exact ⟨hend, fun numbers hmem => (List.mem_append.1 hmem).elim (hformer numbers) (hlatter numbers)⟩

theorem Delivers.gone (hw : Registry.Within get set) {call : α → σ → σ × Verdict} {es : List (Nat × α)} {s : σ}
    {hs : List Happening} {n : Nat} : Delivers get set present call es s hs → (get s).Gone n →
      (get (deliver call es s).1).Gone n ∧ ∀ numbers, began numbers ∈ hs → n ∉ numbers
  | .nobody => fun hn => ⟨hn, nofun⟩
  | .next goes rest => fun hn => by
    obtain ⟨hmid, hgoes⟩ := goes.gone hw hn
    obtain ⟨hend, hrest⟩ := rest.gone hw hmid
    refine ⟨hend, fun numbers hmem => ?_⟩
    exact (began_mem_call.1 hmem).elim (hgoes numbers) (hrest numbers)

end

theorem Registry.Gone.retire {r : Registry α} {ids : List Nat} (hold : n < r.next) (hn : n ∈ ids) :
    (r.retire ids).Gone n := by
  refine ⟨hold, fun hmem => ?_⟩
  obtain ⟨e, he, rfl⟩ := List.mem_map.1 hmem
  simp [Registry.retire, hn] at he

/-! ## Who is called again -/

theorem Goes.again_append (hw : Registry.Within get set) {outer : List (List Nat)} {post : List Happening}
    (h : Goes get set present s hs t) (hgone : (get s).Gone n) (hagain : Again n outer post) :
    Again n outer (post ++ hs) := by
  obtain ⟨-, hbegan⟩ := h.gone hw hgone
  refine hagain.append_other hbegan fun hmem => ?_
  obtain ⟨numbers, hmem, hn⟩ := h.began_of_called hmem
  exact hbegan numbers hmem hn

theorem Delivers.again_append (hw : Registry.Within get set) {outer : List (List Nat)} {post : List Happening}
    {m : Nat} {verdict : Verdict} (h : Delivers get set present call es s hs) (hgone : (get s).Gone n)
    (hagain : Again n outer post) :
    Again n (outer ++ [es.map Prod.fst]) (post ++ returned m verdict :: hs) := by
  obtain ⟨-, hbegan⟩ := h.gone hw hgone
  refine hagain.append (fun numbers hmem => hbegan numbers (by simpa using hmem)) ?_
  rw [List.mem_cons, or_iff_right (by simp)]
  constructor
  · intro hmem
    rcases h.began_of_called hmem with hn | ⟨numbers, hmem, hn⟩
    · exact ⟨_, List.mem_singleton_self _, hn⟩
    · exact absurd hn (hbegan numbers hmem)
  · rintro ⟨numbers, hnumbers, hn⟩
    obtain rfl := List.mem_singleton.1 hnumbers
    exact h.called_of_mem hn

theorem Delivers.again_of_notMem (h : Delivers get set present call es s hs) (hn : n ∉ es.map Prod.fst) :
    Again n [] hs := by
  have hremainder : remainder 0 hs = hs := by
    have := h.remainder_append 0 []
    rwa [List.append_nil, remainder, List.append_nil] at this
  rw [Again, hremainder]
  constructor
  · intro hmem
    exact .inr ((h.began_of_called hmem).resolve_left hn)
  · rintro (⟨numbers, hnone, -⟩ | ⟨numbers, hmem, hmem'⟩)
    · cases hnone
    · exact h.called_of_began hmem hmem'

mutual

/-- A listener says that it is through. It is not registered any more in the end, and it is called again exactly if
an announcement further out has it still ahead, or another one comes to it before the one under way is over. -/
theorem Goes.again (hw : Registry.Within get set) {s t : σ} {hs pre post : List Happening} {n : Nat} :
    Goes get set present s hs t → (get s).Numbered → hs = pre ++ returned n .closed :: post →
      (get t).Gone n ∧
        ∃ own outer, (∀ ahead, pre.foldl proceed ahead = own :: (outer ++ ahead)) ∧ Again n outer post
  | .still _ => fun _ heq => by simp at heq
  | .registers _ _ => fun _ heq => by simp at heq
  | .announces pruned calls => fun hn heq => by
    have hpruned := hn.sift fun e => present s e.2
    rw [← hw.pruned pruned] at hpruned
    rw [get_emit hw pruned]
    -- The listener has been called between the beginning of the announcement and its end.
    rcases List.append_eq_cons_iff.1 heq.symm with ⟨-, hbegan⟩ | ⟨pre', rfl, hinner⟩
    · simp at hbegan
    rcases eq_append_cons hinner with ⟨post', hcalls, rfl⟩ | ⟨mid, -, hended⟩
    · obtain ⟨hgone, own, outer, hahead, hagain⟩ := calls.again hw hpruned hpruned.nodup hcalls
      refine ⟨?_, own, outer, hahead, hagain.append_other (by simp) (by simp)⟩
      rcases hgone with hgone | hclosed
      · exact hgone.sift _
      · have hold := hpruned.lt_of_mem (mem_of_mem_closedIds hclosed)
        exact .retire (Nat.lt_of_lt_of_le hold (calls.becomes hw).next) hclosed
    · simp [List.cons_eq_append_iff] at hended
  | .trans former latter => fun hn heq => by
    rcases eq_append_cons heq with ⟨mid, hformer, rfl⟩ | ⟨mid, rfl, hlatter⟩
    · obtain ⟨hgone, own, outer, hahead, hagain⟩ := former.again hw hn hformer
      exact ⟨(latter.gone hw hgone).1, own, outer, hahead, latter.again_append hw hgone hagain⟩
    · obtain ⟨hgone, own, outer, hahead, hagain⟩ := latter.again hw (former.numbered hw hn) hlatter
      refine ⟨hgone, own, outer, fun ahead => ?_, hagain⟩
      rw [List.foldl_append, former.foldl_proceed, hahead]

theorem Delivers.again (hw : Registry.Within get set) {call : α → σ → σ × Verdict} {es : List (Nat × α)} {s : σ}
    {hs pre post : List Happening} {n : Nat} :
    Delivers get set present call es s hs → (get s).Numbered → (es.map Prod.fst).Nodup →
      hs = pre ++ returned n .closed :: post →
      ((get (deliver call es s).1).Gone n ∨ n ∈ closedIds (deliver call es s).2) ∧
        ∃ own outer, (∀ ahead, pre.foldl proceed (es.map Prod.fst :: ahead) = own :: (outer ++ ahead)) ∧
          Again n outer post
  | .nobody => fun _ _ heq => by simp at heq
  | .next goes rest => fun hn hnodup heq => by
    rw [List.map_cons, List.nodup_cons] at hnodup
    obtain ⟨hother, hnodup⟩ := hnodup
    rw [mem_closedIds_cons]
    rcases List.append_eq_cons_iff.1 heq.symm with ⟨-, hcalled⟩ | ⟨pre', rfl, hinner⟩
    · simp at hcalled
    simp only [List.foldl_cons, List.map_cons, proceed, List.modifyHead_cons, List.tail_cons]
    rcases eq_append_cons hinner with ⟨mid, hgoes, rfl⟩ | ⟨mid, rfl, hrest⟩
    · -- It was called inside of this call.
      obtain ⟨hgone, own, outer, hahead, hagain⟩ := goes.again hw hn hgoes
      refine ⟨.inl (rest.gone hw hgone).1, own, outer ++ [_], fun ahead => ?_, rest.again_append hw hgone hagain⟩
      rw [hahead, List.append_assoc, List.singleton_append]
    · simp only [List.foldl_append, goes.foldl_proceed]
      rcases List.append_eq_cons_iff.1 hrest.symm with ⟨rfl, hself⟩ | ⟨mid', rfl, hlater⟩
      · -- It is this call.
        obtain ⟨hsame, rfl⟩ := List.cons.inj hself
        obtain ⟨rfl, hclosed⟩ := returned.inj hsame
        exact ⟨.inr (.inl ⟨rfl, hclosed.symm⟩), _, [], fun _ => rfl, rest.again_of_notMem hother⟩
      · -- It is called later.
        obtain ⟨hgone, own, outer, hahead, hagain⟩ := rest.again hw (goes.numbered hw hn) hnodup hlater
        exact ⟨hgone.imp_right .inr, own, outer, hahead, hagain⟩

end

/-- **Who is called again.** A listener that has said that it is through is called again exactly if an announcement
further out that is under way has it still ahead, or another one comes to it before the innermost one is over. -/
theorem Goes.called_again_iff {pre post : List Happening}
    (h : Goes get set present s (pre ++ returned n .closed :: post) t) (hw : Registry.Within get set)
    (hn : (get s).Numbered) :
    called n ∈ post ↔ (∃ numbers ∈ (underWay pre).tail, n ∈ numbers) ∨
      ∃ numbers, began numbers ∈ remainder 0 post ∧ n ∈ numbers := by
  obtain ⟨-, own, outer, hahead, hagain⟩ := h.again hw hn rfl
  rw [underWay, hahead, List.tail_cons, List.append_nil]
  exact hagain

/-- Two listeners that are called inside of another call. The second one is through. -/
def answering (announces : Bool) (r : Registry Bool) : Registry Bool × Verdict :=
  (r, if announces then .ok else .closed)

/-- The same in the open, where the first one announces another event. -/
def announcing (announces : Bool) (r : Registry Bool) : Registry Bool × Verdict :=
  if announces then ((emit id id (fun _ _ => true) answering r).1, .ok) else (r, .closed)

def Registry.pair : Registry Bool := { entries := [(0, true), (1, false)], next := 2 }

theorem called_again_of_pair :
    let pre := [began [0, 1], called 0, began [0, 1], called 0, returned 0 .ok, called 1]
    let post := [ended, returned 0 .ok, called 1, returned 1 .closed, ended]
    (∃ t, Goes id id (fun _ _ => true) Registry.pair (pre ++ returned 1 .closed :: post) t) ∧ called 1 ∈ post := by
  have hinner : Goes id id (fun _ _ => true) Registry.pair
      [began [0, 1], called 0, returned 0 .ok, called 1, returned 1 .closed, ended]
      (emit id id (fun _ _ => true) answering Registry.pair).1 :=
    @Goes.announces _ _ _ _ _ _ _ answering [called 0, returned 0 .ok, called 1, returned 1 .closed] rfl
      (@Delivers.next _ _ _ _ _ _ (0, true) _ _ [] _ (.still rfl)
        (@Delivers.next _ _ _ _ _ _ (1, false) _ _ [] [] (.still rfl) .nobody))
  have hcalls : Delivers id id (fun _ _ => true) announcing Registry.pair.entries Registry.pair
      [called 0, began [0, 1], called 0, returned 0 .ok, called 1, returned 1 .closed, ended, returned 0 .ok,
        called 1, returned 1 .closed] :=
    @Delivers.next _ _ _ _ _ _ (0, true) _ _
      [began [0, 1], called 0, returned 0 .ok, called 1, returned 1 .closed, ended]
      [called 1, returned 1 .closed] hinner
      (@Delivers.next _ _ _ _ _ _ (1, false) _ _ [] [] (.still rfl) .nobody)
  have hn : Registry.pair.Numbered := ⟨by decide, by decide⟩
  have hevent := @Goes.announces _ _ id id (fun _ _ => true) Registry.pair _ announcing _ rfl hcalls
  intro pre post
  have h : Goes id id (fun _ _ => true) Registry.pair (pre ++ returned 1 .closed :: post) _ := hevent
  exact ⟨⟨_, h⟩, (h.called_again_iff ⟨fun _ _ => rfl, fun _ _ => rfl⟩ hn).2 (.inl ⟨[1], by decide, by decide⟩)⟩

end XmppBosh
