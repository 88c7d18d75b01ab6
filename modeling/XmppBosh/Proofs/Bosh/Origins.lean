import XmppBosh.Proofs.Bosh.Conservation

/-!
# Where requests come from

A request goes back to one that was handed over for the first time: to itself, or to the one that it
repeats. Numbers follow the requests and their retries through a run, so that two requests with the
same text are told apart.

* `Origins` : the texts of the requests that were handed over, repetitions aside, and the places in
  that list of what the unanswered requests and the retries go back to;
* `Origins.take`, `Origins.follow` : the origins after one more move, and after a run;
* `Origins.tell` : the text of an origin;
* `Exact`, `Exact.step`, `exact_origins` : whatever is on its way has the text of its origin, letter by
  letter.
-/

namespace XmppBosh.Bosh

/-- What the requests and the alarms that are on their way go back to. -/
structure Origins where
  /-- The requests that were handed over, repetitions aside. -/
  texts : List String := []
  /-- The places of the origins, one for each unanswered request. -/
  unanswered : List (Option Nat) := []
  /-- One for each alarm; only retries have one. -/
  armed : List (Option Nat) := []

namespace Origins

open Traffic

/-! ## Following a run -/

def tell (r : Origins) (origin : Option Nat) : Option (Option String) := origin.map (r.texts[·]?)

def origin? (m : Move) (r : Origins) : Option Nat :=
  match m with
  | .reply k _ => r.unanswered[k]?.join
  | .fire k => r.armed[k]?.join
  | _ => none

/-- What is left once a move has taken up what it is about. -/
def consume (m : Move) (t : Traffic) (r : Origins) : Origins :=
  match m with
  | .reply k _ => { r with unanswered := r.unanswered.eraseIdx k }
  | .fire k => { r with
      armed := r.armed.eraseIdx k ++ (t.armed[k]?.bind again?).toList.map fun _ => none }
  | _ => r

/-- What comes of an outcome. A request is its own origin, unless it repeats one, and a retry has the
origin of the request that went wrong. -/
def deliver (i : Input) (origin : Option Nat) (o : Outcome) (r : Origins) : Origins where
  texts := r.texts ++ if i.isRetry then [] else o.posts.map Request.text
  unanswered := r.unanswered ++
    if i.isRetry then o.posts.map fun _ => origin
    else (List.range o.posts.length).map fun k => some (r.texts.length + k)
  armed := r.armed ++ o.alarms.map fun a => a.2.repeats?.bind fun _ => origin

def take (now : Nat) (m : Move) (t : Traffic) (r : Origins) : Origins :=
  match t.input? m with
  | none => r
  | some i => (r.consume m t).deliver i (r.origin? m) (t.session.step now i)

def follow : List (Nat × Move) → Traffic → Origins → Origins
  | [], _, r => r
  | (now, m) :: ms, t, r => follow ms (t.step now m) (r.take now m t)

variable {r : Origins} {t : Traffic} {m : Move} {i : Input} {now : Nat}

theorem take_none (h : t.input? m = none) (now : Nat) (r : Origins) : r.take now m t = r := by
  simp [take, h]

theorem take_some (h : t.input? m = some i) (now : Nat) (r : Origins) :
    r.take now m t = (r.consume m t).deliver i (r.origin? m) (t.session.step now i) := by
  simp [take, h]

@[simp] theorem texts_consume (m : Move) (t : Traffic) (r : Origins) :
    (r.consume m t).texts = r.texts := by
  cases m <;> rfl

@[simp] theorem tell_consume (m : Move) (t : Traffic) (r : Origins) :
    (r.consume m t).tell = r.tell := by
  funext origin
  rw [tell, texts_consume, tell]

theorem texts_follow (ms : List (Nat × Move)) (t : Traffic) (r : Origins) :
    (follow ms t r).texts = r.texts ++ handedOver false (stages ms t) := by
  induction ms generalizing t r with
  | nil => simp [follow, stages, handedOver]
  | cons x ms ih =>
    obtain ⟨now, m⟩ := x
    rw [follow, stages, ih, handedOver_append, ← List.append_assoc]
    congr 1
    cases hi : t.input? m with
    | none => simp [take_none hi, handedOver]
    | some i =>
      rw [take_some hi, deliver, texts_consume]
      cases hretry : i.isRetry <;> simp [handedOver, hretry, Stage.outcome]

theorem follow_append (ms ms' : List (Nat × Move)) (t : Traffic) (r : Origins) :
    follow (ms ++ ms') t r = follow ms' (t.run ms) (follow ms t r) := by
  induction ms generalizing t r with
  | nil => rfl
  | cons x ms ih => exact ih ..

/-! ## Telling -/

theorem tell_append {origin : Option Nat} {text : Option String} (h : r.tell origin = text.map some)
    {r' : Origins} {new : List String} (hr : r'.texts = r.texts ++ new) :
    r'.tell origin = text.map some := by
  rw [← h]
  cases origin with
  | none => rfl
  | some n =>
    cases text with
    | none => simp [tell] at h
    | some text =>
      have hn : r.texts[n]? = some text := by simpa [tell] using h
      have hlt : n < r.texts.length := (List.getElem?_eq_some_iff.1 hn).1
      simp only [tell, Option.map_some, hr]
      rw [List.getElem?_append_left hlt]

theorem map_tell_range (r : Origins) (new : List String) {r' : Origins}
    (hr : r'.texts = r.texts ++ new) :
    ((List.range new.length).map fun k => some (r.texts.length + k)).map r'.tell =
      new.map fun text => some (some text) := by
  apply List.ext_getElem
  · simp
  · intro k hk _
    have hk : k < new.length := by simpa using hk
    simp [tell, hr, hk]

end Origins

namespace Traffic

open Origins

variable {r : Origins} {t : Traffic} {m : Move} {i : Input} {now : Nat}

/-- Whatever is on its way has the text of its origin. -/
structure Exact (r : Origins) (t : Traffic) : Prop where
  unanswered : r.unanswered.map r.tell = t.unanswered.map fun q => (some q.text).map some
  armed : r.armed.map r.tell = t.armed.map fun a => a.alarm.repeats?.map some

namespace Exact

theorem map_tell {α : Type} {origins : List (Option Nat)} {l : List α} {text : α → Option String}
    (h : origins.map r.tell = l.map fun x => (text x).map some) {r' : Origins} {new : List String}
    (hr : r'.texts = r.texts ++ new) : origins.map r'.tell = l.map fun x => (text x).map some := by
  rw [← h]
  apply List.map_congr_left
  intro origin ho
  have hmem : r.tell origin ∈ l.map fun x => (text x).map some := h ▸ List.mem_map_of_mem ho
  obtain ⟨x, -, hx⟩ := List.mem_map.1 hmem
  rw [tell_append hx.symm hr, hx]

theorem consume (h : Exact r t) (m : Move) : Exact (r.consume m t) (t.consume m) := by
  constructor <;> rw [tell_consume]
  · cases m with
    | reply k reply =>
      simp only [Origins.consume, Traffic.consume, ← List.eraseIdx_map, h.unanswered]
    | _ => exact h.unanswered
  · cases m with
    | fire k =>
      have hagain : (t.armed[k]?.bind again?).toList.map (fun a => a.alarm.repeats?.map some) =
          ((t.armed[k]?.bind again?).toList.map fun _ => none).map r.tell := by
        rw [List.map_map]
        apply List.map_congr_left
        intro a ha
        obtain ⟨b, -, hab⟩ := Option.bind_eq_some_iff.1 (Option.mem_toList.1 ha)
        unfold again? at hab
        split at hab <;> cases hab
        simp_all [Alarm.repeats?, Origins.tell]
      simp only [Origins.consume, Traffic.consume, List.map_append, ← List.eraseIdx_map, h.armed,
        hagain]
    | _ => exact h.armed

theorem origin_of_armed (h : Exact r t) {k : Nat} {a : Armed} (ha : t.armed[k]? = some a) :
    ∃ origin, r.armed[k]? = some origin ∧ r.tell origin = a.alarm.repeats?.map some := by
  have hk := congrArg (·[k]?) h.armed
  simp only [List.getElem?_map, ha, Option.map_some] at hk
  exact Option.map_eq_some_iff.1 hk

theorem origin_of_unanswered (h : Exact r t) {k : Nat} {q : Handed} (hq : t.unanswered[k]? = some q) :
    ∃ origin, r.unanswered[k]? = some origin ∧ r.tell origin = some (some q.text) := by
  have hk := congrArg (·[k]?) h.unanswered
  simp only [List.getElem?_map, hq, Option.map_some] at hk
  exact Option.map_eq_some_iff.1 hk

theorem tell_of_mem_posts (h : Exact r t) (hi : t.input? m = some i) (hr : i.isRetry) {q : Request}
    (hq : q ∈ (t.session.step now i).posts) : r.tell (r.origin? m) = some (some q.text) := by
  obtain ⟨request, sid, rfl⟩ := Input.exists_of_isRetry hr
  obtain ⟨k, a, rfl, ha, halarm⟩ := fire_of_input? hi
  obtain ⟨origin, ho, htell⟩ := h.origin_of_armed ha
  have htext := (Session.fire_retry_carried now request sid t.session).2 q hq
  rw [origin?, ho, htext]
  simpa [halarm, Alarm.repeats?] using htell

theorem tell_of_mem_alarms (h : Exact r t) (hi : t.input? m = some i) {d : Nat} {alarm : Alarm}
    (ha : (d, alarm) ∈ (t.session.step now i).alarms) :
    r.tell (alarm.repeats?.bind fun _ => r.origin? m) = alarm.repeats?.map some := by
  cases alarm with
  | retry request sid =>
    obtain ⟨reply, rfl, -⟩ := Session.retry_of_mem_alarms ha
    obtain ⟨k, q, rfl, hq, rfl⟩ := reply_of_input? hi
    obtain ⟨origin, ho, htell⟩ := h.origin_of_unanswered hq
    rw [origin?, ho]
    exact htell
  | continuation rid => rfl
  | heartbeat period => rfl

/-- A request that is handed over has its own text as its origin's, or that of the one it repeats. -/
theorem tell_posts {o : Outcome} {origin : Option Nat}
    (hposts : i.isRetry → ∀ q ∈ o.posts, r.tell origin = some (some q.text)) :
    (if i.isRetry then o.posts.map fun _ => origin
      else (List.range o.posts.length).map fun k => some (r.texts.length + k)).map
        (r.deliver i origin o).tell = o.posts.map fun q => some (some q.text) := by
  have htexts : (r.deliver i origin o).texts =
      r.texts ++ if i.isRetry then [] else o.posts.map Request.text := rfl
  cases hi : i.isRetry with
  | true =>
    rw [if_pos rfl, List.map_map]
    apply List.map_congr_left
    intro q hq
    have htell : r.tell origin = (some q.text).map some := hposts hi q hq
    exact tell_append htell htexts
  | false =>
    rw [hi] at htexts
    have hnew := map_tell_range r (o.posts.map Request.text) htexts
    rw [List.length_map, List.map_map (l := o.posts)] at hnew
    exact hnew

theorem deliver {o : Outcome} {origin : Option Nat} (h : Exact r t)
    (hposts : i.isRetry → ∀ q ∈ o.posts, r.tell origin = some (some q.text))
    (halarms : ∀ a ∈ o.alarms,
      r.tell (a.2.repeats?.bind fun _ => origin) = a.2.repeats?.map some) (now n : Nat) :
    Exact (r.deliver i origin o) (t.deliver now n o) := by
  have htexts : (r.deliver i origin o).texts =
      r.texts ++ if i.isRetry then [] else o.posts.map Request.text := rfl
  constructor
  · rw [Origins.deliver, List.map_append, ← Origins.deliver, map_tell h.unanswered htexts,
      tell_posts hposts, unanswered_deliver, List.map_append, List.map_map]
    rfl
  · rw [Origins.deliver, List.map_append, ← Origins.deliver, map_tell h.armed htexts, List.map_map,
      armed_deliver, List.map_append, List.map_map]
    congr 1
    exact List.map_congr_left fun a ha => tell_append (halarms a ha) htexts

/-- **One move** leaves everything that is on its way with the text of its origin. -/
theorem step (h : Exact r t) (hi : t.input? m = some i) (now : Nat) :
    Exact (r.take now m t) ((t.consume m).act now i) := by
  rw [take_some hi, act, session_consume]
  apply (h.consume m).deliver
  · intro hr q hq
    rw [tell_consume]
    exact h.tell_of_mem_posts hi hr hq
  · intro a ha
    rw [tell_consume]
    exact h.tell_of_mem_alarms hi ha

theorem run (h : Exact r t) (ms : List (Nat × Move)) : Exact (follow ms t r) (t.run ms) := by
  induction ms generalizing r t with
  | nil => exact h
  | cons x ms ih =>
    obtain ⟨now, m⟩ := x
    rw [follow, run_cons]
    apply ih
    cases hi : t.input? m with
    | none => rwa [step_none hi, take_none hi]
    | some i => exact step_some hi now ▸ h.step hi now

end Exact

def origins (settings : Option Settings) (timings : Timings) (ms : List (Nat × Move)) : Origins :=
  follow ms (start settings timings) {}

/-- **Repetitions are exact**: whatever is on its way has the text of its origin, letter by letter. -/
theorem exact_origins (settings : Option Settings) (timings : Timings) (ms : List (Nat × Move)) :
    Exact (origins settings timings ms) ((start settings timings).run ms) :=
  Exact.run ⟨rfl, rfl⟩ ms

end Traffic

end XmppBosh.Bosh
