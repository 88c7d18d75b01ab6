import XmppBosh.Proofs.Bosh.Outcome
import Mathlib.Data.List.Sort
import Mathlib.Data.List.Nodup

/-!
# In which order listeners hear notices

A session is stepped while listeners are being told of earlier steps: by a listener that is told, or by another task
that runs meanwhile.

* `Call` : a listener is to hear a notice; both go by their numbers;
* `Hall` : a session with the notices that were made, the calls that are still ahead, and those that were heard;
* `Hall.step`, `Hall.hear`, `Hall.Reached` : the session takes a step, or a call is heard. Where one task runs at a
  time, what is announced is told before everything that was still to be told;
* `Hall.Told`, `told_of_reached` : what a listener has heard and what is ahead of it is every notice once, and a
  later notice comes before an earlier one only if it was made while that was still ahead of the listener, and where
  one task runs at a time just then;
* `Told.sublist_iff`, `Told.hears_eq_range_iff` : when a listener hears two notices the other way round, and when
  it hears all of them in order;
* `hears_eq_range_iff_of_reached` : when everybody does;
* `made_of_reached`, `shown_of_reached` : the notices that were made, and those that a listener has heard, in what
  has happened.
-/

namespace XmppBosh.Bosh

/-- A listener is to hear a notice. Notices go by their numbers in the order in which they are made, listeners by
those under which they are registered. -/
structure Call where
  notice : Nat
  listener : Nat
  deriving DecidableEq

def Call.ofListener (j : Nat) (calls : List Call) : List Nat :=
  (calls.filter fun c => c.listener = j).map Call.notice

/-- The calls for some notices, from number `first` on, each for all listeners. -/
def Call.announce (audience : List Nat) (first count : Nat) : List Call :=
  (List.range' first count).flatMap fun n => audience.map fun j => ⟨n, j⟩

structure Made where
  notice : Notice
  ahead : List Call

inductive Sight where
  | stepped (outcome : Outcome)
  | told (notice : Notice) (listener : Nat)

def Sight.notices : Sight → List Notice
  | .stepped o => o.notices
  | .told _ _ => []

def Sight.toldOf (j : Nat) : Sight → Option Notice
  | .told notice listener => if listener = j then some notice else none
  | .stepped _ => none

/-- A session and those who listen to it. -/
structure Hall where
  session : Session
  /-- The notices in the order in which they were made. -/
  made : List Made := []
  /-- What is still to be heard. -/
  ahead : List Call := []
  /-- What was heard, in order. -/
  heard : List Call := []
  /-- All that has happened, in order. -/
  shown : List Sight := []

namespace Call

variable {j n first count : Nat} {audience : List Nat} {calls rest : List Call}

@[simp] theorem ofListener_nil (j : Nat) : ofListener j [] = [] := rfl

theorem ofListener_append (j : Nat) (calls rest : List Call) :
    ofListener j (calls ++ rest) = ofListener j calls ++ ofListener j rest := by
  simp [ofListener]

theorem mem_ofListener : n ∈ ofListener j calls ↔ ⟨n, j⟩ ∈ calls := by
  simp only [ofListener, List.mem_map, List.mem_filter, decide_eq_true_eq]
  constructor
  · rintro ⟨c, ⟨hc, rfl⟩, rfl⟩
    exact hc
  · intro h
    exact ⟨_, ⟨h, rfl⟩, rfl⟩

theorem mem_announce {c : Call} : c ∈ announce audience first count ↔
    (first ≤ c.notice ∧ c.notice < first + count) ∧ c.listener ∈ audience := by
  simp only [announce, List.mem_flatMap, List.mem_range'_1, List.mem_map]
  constructor
  · rintro ⟨n, hn, j, hj, rfl⟩
    exact ⟨hn, hj⟩
  · rintro ⟨hn, hj⟩
    exact ⟨c.notice, hn, c.listener, hj, rfl⟩

theorem announce_succ (audience : List Nat) (first count : Nat) : announce audience first (count + 1) =
    audience.map (fun j => ⟨first, j⟩) ++ announce audience (first + 1) count := by
  simp [announce, List.range'_succ]

theorem ofListener_row (hnodup : audience.Nodup) (hj : j ∈ audience) (n : Nat) :
    ofListener j (audience.map fun i => ⟨n, i⟩) = [n] := by
  have hrow : audience.filter (fun i => decide (i = j)) = [j] := by
    rw [List.filter_eq, List.count_eq_one_of_mem hnodup hj]
    rfl
  simp [ofListener, List.filter_map, Function.comp_def, hrow]

theorem ofListener_announce (hnodup : audience.Nodup) (hj : j ∈ audience) (first count : Nat) :
    ofListener j (announce audience first count) = List.range' first count := by
  induction count generalizing first with
  | zero => rfl
  | succ count ih =>
    rw [announce_succ, ofListener_append, ofListener_row hnodup hj, ih, List.range'_succ]
    rfl

end Call

namespace Hall

variable {h hall : Hall} {s : Session} {j a b : Nat} {alone : Prop} {audience : List Nat}
  {c : Call} {before rest : List Call}

/-! ## What can happen -/

/-- The session takes a step. What it announces is to be heard before everything else, if nothing runs meanwhile. -/
def step (audience : List Nat) (now : Nat) (i : Input) (h : Hall) : Hall :=
  let o := h.session.step now i
  { h with
    session := o.session
    made := h.made ++ o.notices.map fun notice => ⟨notice, h.ahead⟩
    ahead := Call.announce audience h.made.length o.notices.length ++ h.ahead
    shown := h.shown ++ [.stepped o] }

def hear (c : Call) (rest : List Call) (h : Hall) : Hall :=
  { h with
    ahead := rest
    heard := h.heard ++ [c]
    shown := h.shown ++ (h.made[c.notice]?).toList.map fun m => .told m.notice c.listener }

/-- What comes of a session with these listeners, whatever they do when they are called. Where one task is `alone`,
the next call is heard first. Where tasks run at the same time, the calls for steps of different tasks are heard in
any order; those for one step stay in order. -/
inductive Reached (alone : Prop) (audience : List Nat) (s : Session) : Hall → Prop
  | opening : Reached alone audience s { session := s }
  | step {h : Hall} (now : Nat) (i : Input) :
      Reached alone audience s h → Reached alone audience s (h.step audience now i)
  | hear {h : Hall} {before rest : List Call} {c : Call} (ahead : h.ahead = before ++ c :: rest)
      (ordered : ∀ d ∈ before, d.listener = c.listener → c.notice < d.notice) (turn : alone → before = []) :
      Reached alone audience s h → Reached alone audience s (h.hear c (before ++ rest))

/-! ## One listener -/

def heardBy (j : Nat) (h : Hall) : List Nat := Call.ofListener j h.heard

def aheadOf (j : Nat) (h : Hall) : List Nat := Call.ofListener j h.ahead

/-- What a listener hears, if the session takes no more steps and one task runs at a time. -/
def hears (j : Nat) (h : Hall) : List Nat := h.heardBy j ++ h.aheadOf j

def aheadAt (n : Nat) (h : Hall) : List Call := (h.made[n]?).elim [] Made.ahead

/-- Whether a listener hears one notice after another: the later one comes first only if it was made while the
earlier one was still ahead of the listener. -/
def Follows (alone : Prop) (j : Nat) (h : Hall) (a b : Nat) : Prop :=
  a < b ∧ (alone → ⟨a, j⟩ ∉ h.aheadAt b) ∨ b < a ∧ ⟨b, j⟩ ∈ h.aheadAt a

structure Told (alone : Prop) (j : Nat) (h : Hall) : Prop where
  perm : (h.hears j).Perm (List.range h.made.length)
  order : (h.hears j).Pairwise (h.Follows alone j)
  /-- Only what was made before can have been ahead. -/
  earlier : ∀ n a, ⟨a, j⟩ ∈ h.aheadAt n → a < n

theorem mem_hears (ht : h.Told alone j) : a ∈ h.hears j ↔ a < h.made.length := by
  rw [ht.perm.mem_iff, List.mem_range]

theorem hears_of_ahead (hahead : h.ahead = before ++ c :: rest) (j : Nat) : h.hears j =
    h.heardBy j ++ (Call.ofListener j before ++ (Call.ofListener j [c] ++ Call.ofListener j rest)) := by
  have hsplit : Call.ofListener j (c :: rest) = Call.ofListener j [c] ++ Call.ofListener j rest :=
    Call.ofListener_append j [c] rest
  rw [hears, aheadOf, hahead, Call.ofListener_append, hsplit]

theorem hears_hear (c : Call) (before rest : List Call) (j : Nat) (h : Hall) : (h.hear c (before ++ rest)).hears j =
    h.heardBy j ++ (Call.ofListener j [c] ++ (Call.ofListener j before ++ Call.ofListener j rest)) := by
  simp only [hears, heardBy, aheadOf, hear, Call.ofListener_append, List.append_assoc]

theorem Told.hear (ht : h.Told alone j) (hahead : h.ahead = before ++ c :: rest)
    (hordered : ∀ d ∈ before, d.listener = c.listener → c.notice < d.notice) (hturn : alone → before = []) :
    (h.hear c (before ++ rest)).Told alone j := by
  have hbefore := hears_of_ahead hahead j
  have hafter := hears_hear c before rest j h
  have hfirst : ∀ a ∈ Call.ofListener j [c], ∀ b ∈ Call.ofListener j before, h.Follows alone j a b := by
    intro a ha b hb
    obtain rfl := List.mem_singleton.1 (Call.mem_ofListener.1 ha)
    have hmem := Call.mem_ofListener.1 hb
    refine .inl ⟨hordered _ hmem rfl, fun halone => ?_⟩
    rw [hturn halone] at hmem
    cases hmem
  have hperm : ((h.hear c (before ++ rest)).hears j).Perm (h.hears j) := by
    rw [hafter, hbefore, ← List.append_assoc (Call.ofListener j [c]), ← List.append_assoc (Call.ofListener j before)]
    exact (List.perm_append_comm.append_right _).append_left _
  refine ⟨hperm.trans ht.perm, ?_, ht.earlier⟩
  have horder := ht.order
  rw [hbefore, List.pairwise_append, List.pairwise_append, List.pairwise_append] at horder
  obtain ⟨hheard, ⟨hearlier, ⟨hself, hlater, hselfLater⟩, hacross⟩, hpast⟩ := horder
  have hfollows : ((h.hear c (before ++ rest)).hears j).Pairwise (h.Follows alone j) := by
    rw [hafter, List.pairwise_append, List.pairwise_append, List.pairwise_append]
    refine ⟨hheard, ⟨hself, ⟨hearlier, hlater, fun a ha b hb => ?_⟩, fun a ha b hb => ?_⟩, fun a ha b hb => ?_⟩
    · exact hacross a ha b (List.mem_append_right _ hb)
    · exact (List.mem_append.1 hb).elim (hfirst a ha b) (hselfLater a ha b)
    · refine hpast a ha b ?_
      simp only [List.mem_append] at hb ⊢
      tauto
  exact hfollows

/-- The notices that a step of the session makes. -/
def news (now : Nat) (i : Input) (h : Hall) : List Nat :=
  List.range' h.made.length (h.session.step now i).notices.length

theorem hears_step (hnodup : audience.Nodup) (hj : j ∈ audience) (now : Nat) (i : Input) (h : Hall) :
    (h.step audience now i).hears j =
      h.heardBy j ++ (h.news now i ++ h.aheadOf j) := by
  simp only [hears, heardBy, aheadOf, news, step, Call.ofListener_append, Call.ofListener_announce hnodup hj]

/-- What was ahead of the notices before stays; ahead of the new ones is everything that is ahead now. -/
theorem aheadAt_step (now : Nat) (i : Input) (h : Hall) (n : Nat) :
    (h.step audience now i).aheadAt n =
      if n < h.made.length then h.aheadAt n
      else if n < h.made.length + (h.session.step now i).notices.length then h.ahead else [] := by
  simp only [aheadAt, step, List.getElem?_append, List.getElem?_map]
  split
  · rfl
  · split
    · next hle hlt =>
      have hsome : n - h.made.length < (h.session.step now i).notices.length := by omega
      simp [List.getElem?_eq_getElem hsome]
    · next hle hge =>
      have hnone : (h.session.step now i).notices[n - h.made.length]? = none := by
        rw [List.getElem?_eq_none_iff]
        omega
      simp [hnone]

theorem mem_news {now : Nat} {i : Input} :
    n ∈ h.news now i ↔ h.made.length ≤ n ∧ n < h.made.length + (h.session.step now i).notices.length :=
  List.mem_range'_1

theorem aheadAt_step_of_lt {now : Nat} {i : Input} (hn : n < h.made.length) :
    (h.step audience now i).aheadAt n = h.aheadAt n := by
  rw [aheadAt_step, if_pos hn]

theorem aheadAt_news {now : Nat} {i : Input} (hn : n ∈ h.news now i) :
    (h.step audience now i).aheadAt n = h.ahead := by
  obtain ⟨hge, hlt⟩ := mem_news.1 hn
  rw [aheadAt_step, if_neg (Nat.not_lt.2 hge), if_pos hlt]

/-- Notices that were made before follow each other as they did. -/
theorem Follows.step {now : Nat} {i : Input} (hf : h.Follows alone j a b) (ha : a < h.made.length)
    (hb : b < h.made.length) : (h.step audience now i).Follows alone j a b := by
  rw [Follows, aheadAt_step_of_lt ha, aheadAt_step_of_lt hb]
  exact hf

/-- A new notice comes right after one that is not ahead. -/
theorem follows_news {now : Nat} {i : Input} (hab : a < b) (hb : b ∈ h.news now i) (ha : a ∉ h.aheadOf j) :
    (h.step audience now i).Follows alone j a b := by
  refine .inl ⟨hab, fun _ => ?_⟩
  rwa [aheadAt_news hb, ← Call.mem_ofListener]

/-- A new notice comes before one that is ahead. -/
theorem news_follows {now : Nat} {i : Input} (hab : a < b) (hb : b ∈ h.news now i) (ha : a ∈ h.aheadOf j) :
    (h.step audience now i).Follows alone j b a := by
  refine .inr ⟨hab, ?_⟩
  rw [aheadAt_news hb]
  exact Call.mem_ofListener.1 ha

theorem Told.lt (ht : h.Told alone j) :
    (∀ a ∈ h.heardBy j, a < h.made.length) ∧ ∀ a ∈ h.aheadOf j, a < h.made.length :=
  List.forall_mem_append.1 fun _ ha => (mem_hears ht).1 ha

theorem Told.disjoint (ht : h.Told alone j) (ha : a ∈ h.heardBy j) : a ∉ h.aheadOf j := by
  have honce : (h.heardBy j ++ h.aheadOf j).Nodup := ht.perm.nodup_iff.2 List.nodup_range
  exact fun hmem => List.disjoint_of_nodup_append honce ha hmem

theorem Told.perm_step (ht : h.Told alone j) (hnodup : audience.Nodup) (hj : j ∈ audience) (now : Nat) (i : Input) :
    ((h.step audience now i).hears j).Perm (List.range (h.step audience now i).made.length) := by
  have hlength : (h.step audience now i).made.length =
      h.made.length + (h.session.step now i).notices.length := by
    simp [Hall.step]
  have hswap : (h.heardBy j ++ (h.news now i ++ h.aheadOf j)).Perm (h.hears j ++ h.news now i) := by
    rw [hears, List.append_assoc]
    exact List.perm_append_comm.append_left _
  rw [hears_step hnodup hj, hlength, List.range_add]
  refine hswap.trans (ht.perm.append ?_)
  rw [news, List.range'_eq_map_range]

theorem Told.step (hnodup : audience.Nodup) (hj : j ∈ audience) (ht : h.Told alone j) (now : Nat) (i : Input) :
    (h.step audience now i).Told alone j := by
  obtain ⟨hheard, hahead⟩ := ht.lt
  refine ⟨ht.perm_step hnodup hj now i, ?_, fun n a ha => ?_⟩
  · have horder := ht.order
    rw [hears, List.pairwise_append] at horder
    obtain ⟨hbefore, hafter, hbetween⟩ := horder
    rw [hears_step hnodup hj, List.pairwise_append, List.pairwise_append]
    -- A new notice comes after all that was heard and before all that is ahead.
    refine ⟨?_, ⟨?_, ?_, fun b hb a ha => ?_⟩, fun a ha b hb => ?_⟩
    · exact hbefore.imp_of_mem fun ha hb hf => hf.step (hheard _ ha) (hheard _ hb)
    · have hsorted : (h.news now i).Pairwise (· < ·) := List.pairwise_lt_range'
      refine hsorted.imp_of_mem fun {a b} ha hb hab => follows_news hab hb fun hmem => ?_
      exact Nat.not_lt.2 (mem_news.1 ha).1 (hahead a hmem)
    · exact hafter.imp_of_mem fun ha hb hf => hf.step (hahead _ ha) (hahead _ hb)
    · exact news_follows (Nat.lt_of_lt_of_le (hahead a ha) (mem_news.1 hb).1) hb ha
    · rcases List.mem_append.1 hb with hb | hb
      · exact follows_news (Nat.lt_of_lt_of_le (hheard a ha) (mem_news.1 hb).1) hb (ht.disjoint ha)
      · exact (hbetween a ha b hb).step (hheard a ha) (hahead b hb)
  · rw [aheadAt_step] at ha
    split at ha
    · exact ht.earlier n a ha
    · split at ha
      · have := hahead a (Call.mem_ofListener.2 ha)
        omega
      · cases ha

theorem told_of_reached (hnodup : audience.Nodup) (hj : j ∈ audience) (h : Reached alone audience s hall) :
    hall.Told alone j := by
  induction h with
  | opening => exact ⟨.nil, .nil, fun n a ha => by simp [aheadAt] at ha⟩
  | step now i _ ih => exact ih.step hnodup hj now i
  | hear hahead hordered hturn _ ih => exact ih.hear hahead hordered hturn

/-! ## What comes first -/

theorem Told.follows (ht : h.Told alone j) (hsub : [a, b].Sublist (h.hears j)) : h.Follows alone j a b :=
  List.pairwise_iff_forall_sublist.1 ht.order hsub

/-- A listener hears a later notice before an earlier one only if it was made while the earlier one was still ahead
of the listener. -/
theorem Told.ahead_of_sublist (ht : h.Told alone j) (hab : a < b) (hsub : [b, a].Sublist (h.hears j)) :
    ⟨a, j⟩ ∈ h.aheadAt b := by
  rcases ht.follows hsub with ⟨hba, -⟩ | ⟨-, hahead⟩
  · omega
  · exact hahead

/-- Where one task runs at a time, it hears the later one first just then. -/
theorem Told.sublist_iff (ht : h.Told alone j) (halone : alone) (hab : a < b) (hb : b < h.made.length) :
    [b, a].Sublist (h.hears j) ↔ ⟨a, j⟩ ∈ h.aheadAt b := by
  refine ⟨ht.ahead_of_sublist hab, fun hahead => ?_⟩
  have hmem : ∀ {x}, x < h.made.length → x ∈ h.hears j := (mem_hears ht).2
  obtain ⟨before, after, hsplit⟩ := List.append_of_mem (hmem hb)
  have ha := hmem (hab.trans hb)
  rw [hsplit, List.mem_append, List.mem_cons] at ha
  rcases ha with ha | rfl | ha
  · have hsub : [a, b].Sublist (h.hears j) := by
      rw [hsplit]
      exact (List.singleton_sublist.2 ha).append (List.singleton_sublist.2 (List.mem_cons_self ..))
    rcases ht.follows hsub with ⟨-, hnot⟩ | ⟨hba, -⟩
    · exact absurd hahead (hnot halone)
    · omega
  · omega
  · rw [hsplit]
    exact ((List.singleton_sublist.2 ha).cons_cons b).trans (List.sublist_append_right before _)

/-- A listener hears the notices in the order in which they were made if none was made while another one was still
ahead of the listener. -/
theorem Told.hears_eq_range (ht : h.Told alone j) (hnone : ∀ n a, ⟨a, j⟩ ∉ h.aheadAt n) :
    h.hears j = List.range h.made.length := by
  have hsorted : (h.hears j).Pairwise (· < ·) :=
    ht.order.imp fun {a b} hfollows => hfollows.elim And.left fun hlater => absurd hlater.2 (hnone a b)
  exact ht.perm.eq_of_pairwise' hsorted List.pairwise_lt_range

/-- Where one task runs at a time, it hears them in this order just then. -/
theorem Told.hears_eq_range_iff (ht : h.Told alone j) (halone : alone) :
    h.hears j = List.range h.made.length ↔ ∀ n a, ⟨a, j⟩ ∉ h.aheadAt n := by
  refine ⟨fun hrange n a hahead => ?_, ht.hears_eq_range⟩
  have hn : n < h.made.length := by
    by_contra hge
    rw [aheadAt, List.getElem?_eq_none (Nat.not_lt.1 hge)] at hahead
    cases hahead
  have hsub := (ht.sublist_iff halone (ht.earlier n a hahead) hn).2 hahead
  rw [hrange] at hsub
  have hlt : n < a := List.pairwise_iff_forall_sublist.1 List.pairwise_lt_range hsub
  have := ht.earlier n a hahead
  omega

/-! ## What was heard -/

theorem notice_lt (h : Reached alone audience s hall) :
    (∀ c ∈ hall.heard, c.notice < hall.made.length) ∧ ∀ c ∈ hall.ahead, c.notice < hall.made.length := by
  induction h with
  | opening => exact ⟨nofun, nofun⟩
  | @step h now i _ ih =>
    obtain ⟨hheard, hahead⟩ := ih
    have hlength : (h.step audience now i).made.length =
        h.made.length + (h.session.step now i).notices.length := by simp [Hall.step]
    rw [hlength]
    refine ⟨fun c hc => (hheard c hc).trans_le (Nat.le_add_right ..), ?_⟩
    rw [Hall.step, List.forall_mem_append]
    refine ⟨fun c hc => (Call.mem_announce.1 hc).1.2, fun c hc => ?_⟩
    exact (hahead c hc).trans_le (Nat.le_add_right ..)
  | @hear h before rest c hahead _ _ _ ih =>
    rw [hahead, List.forall_mem_append, List.forall_mem_cons] at ih
    obtain ⟨hheard, hbefore, hc, hrest⟩ := ih
    exact ⟨List.forall_mem_append.2 ⟨hheard, List.forall_mem_singleton.2 hc⟩,
      List.forall_mem_append.2 ⟨hbefore, hrest⟩⟩

def notices (ns : List Nat) (h : Hall) : List Notice := ns.filterMap fun n => (h.made[n]?).map Made.notice

theorem notices_append (ns ms : List Nat) (h : Hall) : h.notices (ns ++ ms) = h.notices ns ++ h.notices ms := by
  simp [notices]

theorem notices_range (h : Hall) : h.notices (List.range h.made.length) = h.made.map Made.notice := by
  have hall (made : List Made) : (List.range made.length).filterMap (fun n => (made[n]?).map Made.notice) =
      made.map Made.notice := by
    induction made with
    | nil => rfl
    | cons m made ih => simpa [List.range_succ_eq_map, List.filterMap_map, Function.comp_def] using ih
  exact hall h.made

/-- The notices that the steps have made. -/
theorem made_of_reached (h : Reached alone audience s hall) :
    hall.made.map Made.notice = hall.shown.flatMap Sight.notices := by
  induction h with
  | opening => rfl
  | @step h now i _ ih =>
    simp only [Hall.step, List.map_append, List.flatMap_append, ih]
    simp [Sight.notices, Function.comp_def]
  | @hear h before rest c _ _ _ _ ih =>
    simp only [hear, List.flatMap_append, ih]
    cases h.made[c.notice]? <;> simp [Sight.notices]

theorem shown_of_reached (h : Reached alone audience s hall) (j : Nat) :
    hall.shown.filterMap (Sight.toldOf j) = hall.notices (hall.heardBy j) := by
  induction h with
  | opening => rfl
  | @step h now i hr ih =>
    have hsame : (h.step audience now i).notices (h.heardBy j) = h.notices (h.heardBy j) := by
      refine List.filterMap_congr fun n hn => ?_
      rw [Hall.step, List.getElem?_append_left ((notice_lt hr).1 _ (Call.mem_ofListener.1 hn))]
    have hstepped : [Sight.stepped (h.session.step now i)].filterMap (Sight.toldOf j) = [] := rfl
    simp only [Hall.step, List.filterMap_append, hstepped, List.append_nil, ih]
    exact hsame.symm
  | @hear h before rest c _ _ _ _ ih =>
    have hnotices : ∀ ns, (h.hear c (before ++ rest)).notices ns = h.notices ns := fun _ => rfl
    rw [hnotices, hear, List.filterMap_append, ih]
    simp only [heardBy, Call.ofListener_append, notices_append]
    congr 1
    by_cases hj : c.listener = j <;> cases hm : h.made[c.notice]? <;>
      simp [Call.ofListener, notices, hj, hm, Sight.toldOf]

/-! ## All listeners -/

theorem listener_mem (h : Reached alone audience s hall) :
    (∀ c ∈ hall.ahead, c.listener ∈ audience) ∧ ∀ m ∈ hall.made, ∀ c ∈ m.ahead, c.listener ∈ audience := by
  induction h with
  | opening => exact ⟨nofun, nofun⟩
  | step now i _ ih =>
    obtain ⟨hahead, hmade⟩ := ih
    refine ⟨?_, ?_⟩
    · rw [Hall.step, List.forall_mem_append]
      exact ⟨fun c hc => (Call.mem_announce.1 hc).2, hahead⟩
    · rw [Hall.step, List.forall_mem_append, List.forall_mem_map]
      exact ⟨hmade, fun _ _ => hahead⟩
  | hear hahead _ _ _ ih =>
    rw [hahead, List.forall_mem_append, List.forall_mem_cons] at ih
    exact ⟨List.forall_mem_append.2 ⟨ih.1.1, ih.1.2.2⟩, ih.2⟩

/-- All listeners hear the notices in the order in which they were made if nothing was ahead of anybody whenever one
was made. -/
theorem hears_eq_range_of_reached (hnodup : audience.Nodup) (h : Reached alone audience s hall)
    (hempty : ∀ m ∈ hall.made, m.ahead = []) (hj : j ∈ audience) : hall.hears j = List.range hall.made.length := by
  refine (told_of_reached hnodup hj h).hears_eq_range fun n a hahead => ?_
  unfold aheadAt at hahead
  cases hmade : hall.made[n]? with
  | none => simp [hmade] at hahead
  | some m => simp [hmade, hempty m (List.mem_of_getElem? hmade)] at hahead

/-- Where one task runs at a time, they do just then. -/
theorem hears_eq_range_iff_of_reached (hnodup : audience.Nodup) (halone : alone)
    (h : Reached alone audience s hall) :
    (∀ j ∈ audience, hall.hears j = List.range hall.made.length) ↔ ∀ m ∈ hall.made, m.ahead = [] := by
  refine ⟨fun hrange m hm => ?_, fun hempty _ hj => hears_eq_range_of_reached hnodup h hempty hj⟩
  rw [List.eq_nil_iff_forall_not_mem]
  intro c hc
  have hj := (listener_mem h).2 m hm c hc
  obtain ⟨n, hn⟩ := List.mem_iff_getElem?.1 hm
  have hnone := ((told_of_reached hnodup hj h).hears_eq_range_iff halone).1 (hrange _ hj) n c.notice
  rw [aheadAt, hn] at hnone
  exact hnone hc

end Hall

end XmppBosh.Bosh
