import XmppBosh.Proofs.Bosh.Step

/-!
# Runs of a session

A session does not run alone: requests wait for their replies, alarms for their time, and bodies that
came in are opened and closed while listeners ask for more.

* `Traffic` : a session with all that is on its way, requests and alarms marked with the number of the
  session in which they came up;
* `Move` : what may happen next: a call of the client, from inside a listener or not, a reply to any
  request, an alarm, or the next part of handing out a body; `Traffic.input?` : the input that a move
  is, if it can be made;
* `Traffic.deliver` : what comes of an outcome;
* `Traffic.step`, `Traffic.run` : moves in any order and at any time, so that a run is a list of moves;
* `run_induction` : what every move preserves holds after every run;
* `Stage`, `Traffic.stages` : the history of a run; `requests` : what was handed over in it;
* `moves_induction`, `stages_induction`, `history_induction` : what every move preserves together with the
  history so far, or every move or step of some kind;
* `forall_split_concat` : what holds of every step in a history; `Traffic.Since` : what has happened in it,
  and what has happened since.
-/

namespace XmppBosh.Bosh

open Xml

/-! ## State -/

/-- A request that was handed over, and the number of the session in which it was. -/
structure Handed where
  session : Nat
  text : String
  deriving DecidableEq

/-- An alarm that has been set, and the number of the session in which it was. -/
structure Armed where
  session : Nat
  due : Nat
  alarm : Alarm
  deriving DecidableEq

/-- A session with all that is on its way. -/
structure Traffic where
  session : Session
  /-- How many sessions have begun, which is the number of the last one. -/
  count : Nat := 0
  /-- The requests without a reply. -/
  unanswered : List Handed := []
  /-- The alarms that have not gone off; the heartbeat stays among them. -/
  armed : List Armed := []
  /-- The bodies that came in and have not been opened. -/
  arrived : List Element := []
  /-- The bodies that are being handed out. -/
  opened : List Element := []

/-- What may happen next. What is on its way goes by its place in its list. -/
inductive Move where
  /-- The client asks for something. -/
  | call (input : Input)
  /-- A request gets its reply. -/
  | reply (place : Nat) (reply : Reply)
  /-- A body that came in is opened. -/
  | openBody (place : Nat)
  /-- A body has been handed out. -/
  | closeBody (place : Nat)
  /-- An alarm goes off. -/
  | fire (place : Nat)

def Input.isCall : Input → Bool
  | .connect _ | .disconnect | .send _ | .flush | .restart | .pause | .resume _ | .setSettings _
  | .setTimings _ => true
  | .answer _ _ | .openBody _ | .closeBody | .fire _ => false

namespace Traffic

def start (settings : Option Settings) (timings : Timings) : Traffic :=
  { session := { settings, timings } }

/-! ## Moves -/

/-- The input that a move is, if what it is about is on its way. -/
def input? (m : Move) (t : Traffic) : Option Input :=
  match m with
  | .call i => if i.isCall then some i else none
  | .reply k r => (t.unanswered[k]?).map fun q => .answer q.text r
  | .openBody k => (t.arrived[k]?).map .openBody
  | .closeBody k => (t.opened[k]?).map fun _ => .closeBody
  | .fire k => (t.armed[k]?).map fun a => .fire a.alarm

def handsOut (t : Traffic) (body : Element) : Bool :=
  t.session.active && !Session.isTerminal body

def again? (a : Armed) : Option Armed :=
  match a.alarm with
  | .heartbeat period => some { a with due := a.due + period }
  | _ => none

/-- What is on its way once a move has taken up what it is about. A reply leaves its body, a body
that is opened is being handed out, and the heartbeat is set again. -/
def consume (m : Move) (t : Traffic) : Traffic :=
  match m with
  | .call _ => t
  | .reply k r => { t with
      unanswered := t.unanswered.eraseIdx k, arrived := t.arrived ++ (t.session.carried? r).toList }
  | .openBody k => { t with
      arrived := t.arrived.eraseIdx k, opened := t.opened ++ (t.arrived[k]?.filter t.handsOut).toList }
  | .closeBody k => { t with opened := t.opened.eraseIdx k }
  | .fire k => { t with armed := t.armed.eraseIdx k ++ (t.armed[k]?.bind again?).toList }

def countAfter (i : Input) (t : Traffic) : Nat :=
  if t.session.begins i then t.count + 1 else t.count

/-- What comes of an outcome: the session goes on, and what it hands over and sets is on its way. -/
def deliver (now n : Nat) (o : Outcome) (t : Traffic) : Traffic :=
  { t with
    session := o.session
    count := n
    unanswered := t.unanswered ++ o.posts.map fun r => ⟨n, r.text⟩
    armed := t.armed ++ o.alarms.map fun a => ⟨n, now + a.1, a.2⟩ }

def act (now : Nat) (i : Input) (t : Traffic) : Traffic :=
  t.deliver now (t.countAfter i) (t.session.step now i)

/-- A move, if it can be made. -/
def step (now : Nat) (m : Move) (t : Traffic) : Traffic :=
  match t.input? m with
  | none => t
  | some i => (t.consume m).act now i

/-- Moves one after the other, each with its time. -/
def run (ms : List (Nat × Move)) (t : Traffic) : Traffic := ms.foldl (fun t m => t.step m.1 m.2) t

variable {t : Traffic} {m : Move} {i : Input} {now : Nat}

@[simp] theorem run_nil (t : Traffic) : t.run [] = t := rfl

@[simp] theorem run_cons (x : Nat × Move) (ms : List (Nat × Move)) (t : Traffic) :
    t.run (x :: ms) = (t.step x.1 x.2).run ms := rfl

theorem step_none (h : t.input? m = none) (now : Nat) : t.step now m = t := by
  simp [step, h]

theorem step_some (h : t.input? m = some i) (now : Nat) : t.step now m = (t.consume m).act now i := by
  simp [step, h]

theorem isCall_of_input? {j : Input} (h : t.input? (.call j) = some i) : i.isCall := by
  simp only [input?] at h
  split at h
  · next hc =>
    cases h
    exact hc
  · cases h

theorem call_of_input? (h : t.input? m = some i) (hc : i.isCall) : m = .call i := by
  cases m with
  | call j =>
    simp only [input?] at h
    split at h
    · cases h
      rfl
    · cases h
  | reply k r | openBody k | closeBody k | fire k =>
    obtain ⟨_, -, rfl⟩ := Option.map_eq_some_iff.1 h
    cases hc

theorem reply_of_input? {request : String} {r : Reply} (h : t.input? m = some (.answer request r)) :
    ∃ k q, m = .reply k r ∧ t.unanswered[k]? = some q ∧ q.text = request := by
  cases m with
  | call j => cases isCall_of_input? h
  | reply k r' =>
    obtain ⟨q, hq, hi⟩ := Option.map_eq_some_iff.1 h
    cases hi
    exact ⟨k, q, rfl, hq, rfl⟩
  | openBody k => simp [input?] at h
  | closeBody k => simp [input?] at h
  | fire k => simp [input?] at h

theorem fire_of_input? {alarm : Alarm} (h : t.input? m = some (.fire alarm)) :
    ∃ k a, m = .fire k ∧ t.armed[k]? = some a ∧ a.alarm = alarm := by
  cases m with
  | call j => cases isCall_of_input? h
  | reply k r => simp [input?] at h
  | openBody k => simp [input?] at h
  | closeBody k => simp [input?] at h
  | fire k =>
    obtain ⟨a, ha, hi⟩ := Option.map_eq_some_iff.1 h
    cases hi
    exact ⟨k, a, rfl, ha, rfl⟩

section Deliver

variable (now n : Nat) (o : Outcome) (t : Traffic)

@[simp] theorem session_deliver : (t.deliver now n o).session = o.session := rfl

@[simp] theorem count_deliver : (t.deliver now n o).count = n := rfl

@[simp] theorem unanswered_deliver :
    (t.deliver now n o).unanswered = t.unanswered ++ o.posts.map fun r => ⟨n, r.text⟩ := rfl

@[simp] theorem armed_deliver :
    (t.deliver now n o).armed = t.armed ++ o.alarms.map fun a => ⟨n, now + a.1, a.2⟩ := rfl

@[simp] theorem arrived_deliver : (t.deliver now n o).arrived = t.arrived := rfl

@[simp] theorem opened_deliver : (t.deliver now n o).opened = t.opened := rfl

/-- Nothing comes of an outcome in which nothing happens, whatever is announced. -/
theorem deliver_idle (notices : List Notice) :
    t.deliver now t.count ⟨t.session, [], notices⟩ = t := by
  simp [deliver]

/-- A change of the session that nothing comes of is only seen by what follows. -/
theorem deliver_deliver (s : Session) (now' n' : Nat) :
    (t.deliver now n ⟨s, [], []⟩).deliver now' n' o = t.deliver now' n' o := by
  simp [deliver]

end Deliver

@[simp] theorem session_consume (m : Move) (t : Traffic) : (t.consume m).session = t.session := by
  cases m <;> rfl

@[simp] theorem count_consume (m : Move) (t : Traffic) : (t.consume m).count = t.count := by
  cases m <;> rfl

@[simp] theorem countAfter_consume (m : Move) (i : Input) (t : Traffic) :
    (t.consume m).countAfter i = t.countAfter i := by
  simp [countAfter]

theorem countAfter_of_not_begins (h : t.session.begins i = false) : t.countAfter i = t.count := by
  simp [countAfter, h]

theorem act_consume (h : t.session.begins i = false) (now : Nat) :
    (t.consume m).act now i = (t.consume m).deliver now t.count (t.session.step now i) := by
  simp only [act, countAfter_consume, session_consume, countAfter_of_not_begins h]

theorem session_act (m : Move) (now : Nat) (i : Input) (t : Traffic) :
    ((t.consume m).act now i).session = (t.session.step now i).session := by
  rw [act, session_deliver, session_consume]

theorem le_countAfter (i : Input) (t : Traffic) : t.count ≤ t.countAfter i := by
  unfold countAfter
  split
  · exact Nat.le_succ _
  · exact Nat.le_refl _

theorem mem_unanswered_consume {q : Handed} (h : q ∈ (t.consume m).unanswered) : q ∈ t.unanswered := by
  cases m with
  | reply k r => exact List.mem_of_mem_eraseIdx h
  | _ => exact h

/-- Taking up a move sets no alarm but the heartbeat, and it keeps its session. -/
theorem mem_armed_consume {a : Armed} (h : a ∈ (t.consume m).armed) :
    ∃ b ∈ t.armed, a.session = b.session ∧ a.alarm = b.alarm := by
  cases m with
  | fire k =>
    rcases List.mem_append.1 h with h | h
    · exact ⟨a, List.mem_of_mem_eraseIdx h, rfl, rfl⟩
    · obtain ⟨b, hb, hab⟩ := Option.bind_eq_some_iff.1 (Option.mem_toList.1 h)
      refine ⟨b, List.mem_of_getElem? hb, ?_⟩
      unfold again? at hab
      split at hab <;> cases hab
      exact ⟨rfl, rfl⟩
  | _ => exact ⟨a, h, rfl, rfl⟩

/-- A retry that is set was set before, or its request has just gone wrong. -/
theorem retry_of_mem_armed {a : Armed} {request : String} {sid : Option String}
    (hi : t.input? m = some i) (ha : a ∈ ((t.consume m).act now i).armed)
    (hr : a.alarm = .retry request sid) :
    (∃ b ∈ t.armed, a.session = b.session ∧ b.alarm = .retry request sid) ∨
      (∃ q ∈ t.unanswered, q.text = request) ∧ sid = t.session.sid? ∧
        (t.session.step now i).session = t.session.failed request := by
  rw [act, armed_deliver, session_consume] at ha
  rcases List.mem_append.1 ha with ha | ha
  · obtain ⟨b, hb, hsession, halarm⟩ := mem_armed_consume ha
    exact .inl ⟨b, hb, hsession, halarm ▸ hr⟩
  · obtain ⟨⟨d, alarm⟩, hd, rfl⟩ := List.mem_map.1 ha
    obtain rfl : alarm = .retry request sid := hr
    obtain ⟨r, rfl, -, hsid, hfailed⟩ := Session.retry_of_mem_alarms hd
    obtain ⟨k, q, -, hq, hrequest⟩ := reply_of_input? hi
    exact .inr ⟨⟨q, List.mem_of_getElem? hq, hrequest⟩, hsid, hfailed⟩

theorem run_induction {P : Traffic → Prop}
    (step : ∀ t now m i, P t → t.input? m = some i → P ((t.consume m).act now i))
    (h : P t) (ms : List (Nat × Move)) : P (t.run ms) := by
  induction ms generalizing t with
  | nil => exact h
  | cons x ms ih =>
    rw [run_cons]
    apply ih
    cases hi : t.input? x.2 with
    | none => rwa [step_none hi]
    | some i => exact step_some hi x.1 ▸ step t x.1 x.2 i h hi

theorem grounded_run (settings : Option Settings) (timings : Timings) (ms : List (Nat × Move)) :
    ((start settings timings).run ms).session.Grounded :=
  run_induction (P := fun t => t.session.Grounded)
    (fun _ now _ i h _ => Session.Grounded.step (by simpa using h) now i)
    (by simp [Session.Grounded, start]) ms

/-! ## History -/

structure Stage where
  before : Session
  now : Nat
  input : Input

def Stage.outcome (g : Stage) : Outcome := g.before.step g.now g.input

def requests (gs : List Stage) : List Request := gs.flatMap (·.outcome.posts)

theorem requests_append (gs gs' : List Stage) : requests (gs ++ gs') = requests gs ++ requests gs' :=
  List.flatMap_append

def stages : List (Nat × Move) → Traffic → List Stage
  | [], _ => []
  | (now, m) :: ms, t =>
    ((t.input? m).map fun i => ⟨t.session, now, i⟩).toList ++ stages ms (t.step now m)

theorem run_append (ms ms' : List (Nat × Move)) (t : Traffic) :
    t.run (ms ++ ms') = (t.run ms).run ms' :=
  List.foldl_append

theorem stages_append (ms ms' : List (Nat × Move)) (t : Traffic) :
    stages (ms ++ ms') t = stages ms t ++ stages ms' (t.run ms) := by
  induction ms generalizing t with
  | nil => rfl
  | cons x ms ih => rw [List.cons_append, stages, stages, ih, List.append_assoc, run_cons]

/-- What every step preserves that some kind of move leads to, together with the history so far, holds
after moves of this kind. -/
theorem moves_induction {P : List Stage → Traffic → Prop} {K : Move → Prop}
    (step : ∀ gs t now m i, P gs t → K m → t.input? m = some i →
      P (gs ++ [⟨t.session, now, i⟩]) ((t.consume m).act now i))
    {gs : List Stage} {ms : List (Nat × Move)} (hms : ∀ x ∈ ms, K x.2) (h : P gs t) :
    P (gs ++ stages ms t) (t.run ms) := by
  induction ms generalizing gs t with
  | nil =>
    rw [stages, List.append_nil]
    exact h
  | cons x ms ih =>
    obtain ⟨now, m⟩ := x
    obtain ⟨hm, hms⟩ := List.forall_mem_cons.1 hms
    rw [run_cons, stages]
    cases hi : t.input? m with
    | none =>
      rw [step_none hi]
      exact ih hms h
    | some i =>
      rw [step_some hi, Option.map_some, Option.toList_some, ← List.append_assoc]
      exact ih hms (step gs t now m i h hm hi)

/-- What every step preserves, together with the history so far, holds after every run. -/
theorem stages_induction {P : List Stage → Traffic → Prop}
    (step : ∀ gs t now m i, P gs t → t.input? m = some i →
      P (gs ++ [⟨t.session, now, i⟩]) ((t.consume m).act now i))
    {gs : List Stage} (h : P gs t) (ms : List (Nat × Move)) : P (gs ++ stages ms t) (t.run ms) :=
  moves_induction (K := fun _ => True) (fun gs t now m i h _ => step gs t now m i h) (fun _ _ => trivial) h

/-- What every step of some kind preserves of the session, together with the history so far, holds after
a run of such steps. -/
theorem history_induction {P : List Stage → Session → Prop} {K : Stage → Prop}
    (step : ∀ gs s now i, P gs s → K ⟨s, now, i⟩ → P (gs ++ [⟨s, now, i⟩]) (s.step now i).session)
    {gs : List Stage} {ms : List (Nat × Move)} (hms : ∀ g ∈ stages ms t, K g) (h : P gs t.session) :
    P (gs ++ stages ms t) (t.run ms).session := by
  induction ms generalizing gs t with
  | nil =>
    rw [stages, List.append_nil]
    exact h
  | cons x ms ih =>
    obtain ⟨now, m⟩ := x
    rw [stages, List.forall_mem_append] at hms
    obtain ⟨hg, hms⟩ := hms
    rw [run_cons, stages]
    cases hi : t.input? m with
    | none =>
      -- A move that does nothing leaves no stage behind.
      rw [step_none hi] at hms ⊢
      exact ih hms h
    | some i =>
      rw [step_some hi] at hms ⊢
      rw [Option.map_some, Option.toList_some, ← List.append_assoc]
      apply ih hms
      rw [session_act]
      exact step gs t.session now i h (hg ⟨t.session, now, i⟩ (by simp [hi]))

theorem forall_split_concat {P : List Stage → Stage → Prop} {gs : List Stage} (g : Stage)
    (h : ∀ before x after, gs = before ++ x :: after → P before x) (hg : P gs g) :
    ∀ before x after, gs ++ [g] = before ++ x :: after → P before x := by
  intro before x after heq
  rcases List.eq_nil_or_concat after with rfl | ⟨after, last, rfl⟩
  · obtain ⟨rfl, hlast⟩ := List.append_inj' heq rfl
    obtain rfl : g = x := by simpa using hlast
    exact hg
  · rw [List.concat_eq_append, ← List.cons_append, ← List.append_assoc] at heq
    exact h before x after (List.append_inj' heq rfl).1

/-- A step of one kind has happened, and only steps of another kind since. -/
def Since (happened meanwhile : Stage → Prop) (gs : List Stage) : Prop :=
  ∃ before g after, gs = before ++ g :: after ∧ happened g ∧ ∀ h ∈ after, meanwhile h

theorem since_concat {happened meanwhile : Stage → Prop} {gs : List Stage} {g : Stage} :
    Since happened meanwhile (gs ++ [g]) ↔ happened g ∨ Since happened meanwhile gs ∧ meanwhile g := by
  constructor
  · rintro ⟨before, h, after, heq, hh, hafter⟩
    rcases List.eq_nil_or_concat after with rfl | ⟨after, last, rfl⟩
    · obtain ⟨-, hlast⟩ := List.append_inj' heq rfl
      obtain rfl : g = h := by simpa using hlast
      exact .inl hh
    · rw [List.concat_eq_append] at heq hafter
      rw [← List.cons_append, ← List.append_assoc] at heq
      obtain ⟨rfl, hlast⟩ := List.append_inj' heq rfl
      obtain rfl : g = last := by simpa using hlast
      rw [List.forall_mem_append] at hafter
      exact .inr ⟨⟨before, h, after, rfl, hh, hafter.1⟩, hafter.2 g (by simp)⟩
  · rintro (hg | ⟨⟨before, h, after, rfl, hh, hafter⟩, hg⟩)
    · exact ⟨gs, g, [], rfl, hg, by simp⟩
    · refine ⟨before, h, after ++ [g], by simp, hh, ?_⟩
      rw [List.forall_mem_append]
      exact ⟨hafter, by simpa using hg⟩

theorem not_since_nil {happened meanwhile : Stage → Prop} : ¬ Since happened meanwhile [] := by
  rintro ⟨before, g, after, h, -⟩
  cases before <;> cases h

end Traffic

end XmppBosh.Bosh
