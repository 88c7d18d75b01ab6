import XmppBosh.Bosh.Session

/-!
# What sending does to a session

* `Outcome.posts`, `Outcome.alarms` : the requests that an outcome hands over, and the alarms that it
  sets;
* `Session.draft` : the body that an edit changes; `pending_edit` : an edit leaves it pending;
* `Session.queued` : the stanzas of the pending body;
* `Session.cleared` : the state without a pending body; `Session.stamp` : the state after a request has
  been handed over (`transmit_eq`, `release_eq`);
* `flush_cases` : a flush either does nothing or hands over the pending body;
* `keepOpen_cases`, `startHeartbeat_cases` : what else may happen on the way;
* `Frame s t` : only the pending body, the count of unanswered requests, the stream's number and time
  and the heartbeat may differ between `s` and `t`. All of the above keep to it;
* `Sends s o` : `o` is `s` with requests handed over and counted.
-/

namespace XmppBosh.Bosh

/-! ## Outcomes -/

namespace Outcome

def posts (o : Outcome) : List Request :=
  o.effects.filterMap fun
    | .post request => some request
    | .arm _ _ => none

/-- The alarms that an outcome sets, each with its delay. -/
def alarms (o : Outcome) : List (Nat × Alarm) :=
  o.effects.filterMap fun
    | .arm delay alarm => some (delay, alarm)
    | .post _ => none

@[simp] theorem posts_nil (s : Session) (n : List Notice) : (Outcome.mk s [] n).posts = [] := rfl

@[simp] theorem posts_post (s : Session) (r : Request) (n : List Notice) :
    (Outcome.mk s [.post r] n).posts = [r] := rfl

@[simp] theorem posts_arm (s : Session) (d : Nat) (a : Alarm) (n : List Notice) :
    (Outcome.mk s [.arm d a] n).posts = [] := rfl

@[simp] theorem alarms_nil (s : Session) (n : List Notice) : (Outcome.mk s [] n).alarms = [] := rfl

@[simp] theorem alarms_post (s : Session) (r : Request) (n : List Notice) :
    (Outcome.mk s [.post r] n).alarms = [] := rfl

@[simp] theorem alarms_arm (s : Session) (d : Nat) (a : Alarm) (n : List Notice) :
    (Outcome.mk s [.arm d a] n).alarms = [(d, a)] := rfl

@[simp] theorem session_andThen (o : Outcome) (f : Session → Outcome) :
    (o.andThen f).session = (f o.session).session := rfl

@[simp] theorem posts_andThen (o : Outcome) (f : Session → Outcome) :
    (o.andThen f).posts = o.posts ++ (f o.session).posts := by
  simp [posts, andThen]

@[simp] theorem notices_andThen (o : Outcome) (f : Session → Outcome) :
    (o.andThen f).notices = o.notices ++ (f o.session).notices := rfl

@[simp] theorem alarms_andThen (o : Outcome) (f : Session → Outcome) :
    (o.andThen f).alarms = o.alarms ++ (f o.session).alarms := by
  simp [alarms, andThen]

end Outcome

/-! ## Views of a session -/

namespace Stream

def terms (s : Stream) : Option String × Option Nat × Option Nat × Option Nat :=
  (s.sid, s.wait, s.inactivity, s.maxPause)

@[simp] theorem rid_advance (s : Stream) : s.advance.rid = s.rid + 1 := rfl

@[simp] theorem sid_advance (s : Stream) : s.advance.sid = s.sid := rfl

@[simp] theorem terms_advance (s : Stream) : s.advance.terms = s.terms := rfl

end Stream

namespace Session

/-- The identifier of the session, if the server has given it one. -/
def sid? (s : Session) : Option String := s.stream.bind Stream.sid

def queued (s : Session) : List Xml.Element := (s.pending.map Body.stanzas).getD []

/-- The body that an edit changes: the pending one, or else a new one. -/
def draft (s : Session) : Body :=
  match s.pending, s.stream with
  | some body, _ => body
  | none, some stream => .numbered (stream.rid + 1) stream.sid
  | none, none => .unnumbered

/-- The state without a pending body. -/
def cleared (s : Session) : Session := { s with pending := none }

def stamp (now : Nat) (s : Session) : Session :=
  { s with
    outstanding := s.outstanding + 1
    stream := s.stream.map fun stream => { stream with lastRequest := some now } }

end Session

/-! ## Bodies -/

namespace Body

@[simp] theorem stanzas_set (n v : String) (b : Body) : (b.set n v).stanzas = b.stanzas := rfl

@[simp] theorem stanzas_set? (n : String) (v : Option String) (b : Body) :
    (b.set? n v).stanzas = b.stanzas := by
  cases v <;> rfl

@[simp] theorem stanzas_push (e : Xml.Element) (b : Body) :
    (b.push e).stanzas = b.stanzas ++ [e] := rfl

@[simp] theorem stanzas_restart (host : String) (b : Body) :
    (b.restart host).stanzas = b.stanzas := rfl

@[simp] theorem stanzas_unnumbered : unnumbered.stanzas = [] := rfl

@[simp] theorem stanzas_numbered (rid : Nat) (sid : Option String) :
    (numbered rid sid).stanzas = [] := by
  simp [numbered]

@[simp] theorem stanzas_sessionCreation (s : Settings) (rid : Nat) :
    (sessionCreation s rid).stanzas = [] := by
  simp [sessionCreation]

end Body

/-! ## Frames -/

/-- Only the pending body, the count of unanswered requests, the stream's number and time and the
heartbeat may differ. -/
structure Frame (s t : Session) : Prop where
  settings : t.settings = s.settings
  timings : t.timings = s.timings
  active : t.active = s.active
  terms : t.stream.map Stream.terms = s.stream.map Stream.terms
  errors : t.errors = s.errors
  retrying : t.retrying = s.retrying
  dispatching : t.dispatching = s.dispatching

namespace Frame

variable {s t u : Session}

theorem refl (s : Session) : Frame s s := ⟨rfl, rfl, rfl, rfl, rfl, rfl, rfl⟩

theorem trans (h : Frame s t) (h' : Frame t u) : Frame s u where
  settings := h'.settings.trans h.settings
  timings := h'.timings.trans h.timings
  active := h'.active.trans h.active
  terms := h'.terms.trans h.terms
  errors := h'.errors.trans h.errors
  retrying := h'.retrying.trans h.retrying
  dispatching := h'.dispatching.trans h.dispatching

theorem sid? (h : Frame s t) : t.sid? = s.sid? := by
  have terms := h.terms
  unfold Session.sid?
  cases hs : s.stream <;> cases ht : t.stream <;> simp_all [Stream.terms]

theorem stream_isSome (h : Frame s t) : t.stream.isSome = s.stream.isSome := by
  simpa using congrArg Option.isSome h.terms

theorem maxRequests (h : Frame s t) : t.maxRequests = s.maxRequests := by
  simp [Session.maxRequests, h.settings]

theorem maySend (h : Frame s t) (ho : t.outstanding = s.outstanding) : t.maySend = s.maySend := by
  simp [Session.maySend, h.dispatching, h.active, h.maxRequests, h.retrying, ho]

end Frame

namespace Session

variable {s : Session} {now : Nat}

/-! ## Editing -/

@[simp] theorem pending_edit (f : Body → Body) (s : Session) :
    (s.edit f).pending = some (f s.draft) := by
  unfold edit draft
  split <;> simp_all

@[simp] theorem outstanding_edit (f : Body → Body) (s : Session) :
    (s.edit f).outstanding = s.outstanding := by
  unfold edit
  split <;> rfl

theorem edit_frame (f : Body → Body) (s : Session) : Frame s (s.edit f) := by
  unfold edit
  split
  · exact ⟨rfl, rfl, rfl, rfl, rfl, rfl, rfl⟩
  · next stream _ h => exact ⟨rfl, rfl, rfl, by simp [h], rfl, rfl, rfl⟩
  · exact ⟨rfl, rfl, rfl, rfl, rfl, rfl, rfl⟩

@[simp] theorem stanzas_draft (s : Session) : s.draft.stanzas = s.queued := by
  unfold draft queued
  split <;> simp_all

theorem queued_edit (f : Body → Body) (s : Session) : (s.edit f).queued = (f s.draft).stanzas := by
  simp [queued]

@[simp] theorem maySend_edit (f : Body → Body) (s : Session) : (s.edit f).maySend = s.maySend :=
  (edit_frame f s).maySend (outstanding_edit f s)

/-! ## Handing over -/

theorem cleared_frame (s : Session) : Frame s s.cleared := ⟨rfl, rfl, rfl, rfl, rfl, rfl, rfl⟩

theorem stamp_frame (now : Nat) (s : Session) : Frame s (s.stamp now) := by
  refine ⟨rfl, rfl, rfl, ?_, rfl, rfl, rfl⟩
  simp [stamp, Function.comp_def, Stream.terms]
  rfl

@[simp] theorem sid?_stamp (now : Nat) (s : Session) : (s.stamp now).sid? = s.sid? :=
  (stamp_frame now s).sid?

theorem transmit_eq {settings : Settings} (h : s.settings = some settings) (now : Nat)
    (text : String) :
    s.transmit now text = ⟨s.stamp now,
      [.post { address := settings.httpBase, timeout := s.requestTimeout, text }], []⟩ := by
  simp [transmit, h, stamp]

theorem transmit_frame (now : Nat) (text : String) (s : Session) :
    Frame s (s.transmit now text).session := by
  cases h : s.settings with
  | none => simpa [transmit, h] using Frame.refl s
  | some settings => simpa [transmit_eq h] using stamp_frame now s

theorem release_frame (now : Nat) (s : Session) : Frame s (s.release now).session := by
  unfold release
  split
  · exact Frame.refl s
  · next body _ => exact (cleared_frame s).trans (transmit_frame now body.text _)

theorem release_eq {settings : Settings} {body : Body} (h : s.settings = some settings)
    (hb : s.pending = some body) (now : Nat) :
    s.release now = ⟨s.cleared.stamp now,
      [.post { address := settings.httpBase, timeout := s.requestTimeout, text := body.text }], []⟩ := by
  simp only [release, hb]
  exact transmit_eq (s := s.cleared) h now body.text

theorem release_none (h : s.pending = none) (now : Nat) : s.release now = ⟨s, [], []⟩ := by
  simp [release, h]

@[simp] theorem pending_release (now : Nat) (s : Session) : (s.release now).session.pending = none := by
  cases hb : s.pending with
  | none => rw [release_none hb]; exact hb
  | some body =>
    cases hs : s.settings with
    | none => simp [release, hb, transmit, hs]
    | some settings => rw [release_eq hs hb]; rfl

@[simp] theorem pending_transmit (now : Nat) (text : String) (s : Session) :
    (s.transmit now text).session.pending = s.pending := by
  cases h : s.settings with
  | none => simp [transmit, h]
  | some settings => simp [transmit_eq h, stamp]

@[simp] theorem alarms_transmit (now : Nat) (text : String) (s : Session) :
    (s.transmit now text).alarms = [] := by
  cases h : s.settings with
  | none => simp [transmit, h]
  | some settings => simp [transmit_eq h]

@[simp] theorem notices_transmit (now : Nat) (text : String) (s : Session) :
    (s.transmit now text).notices = [] := by
  cases h : s.settings with
  | none => simp [transmit, h]
  | some settings => simp [transmit_eq h]

@[simp] theorem alarms_release (now : Nat) (s : Session) : (s.release now).alarms = [] := by
  unfold release
  split <;> simp

@[simp] theorem notices_release (now : Nat) (s : Session) : (s.release now).notices = [] := by
  unfold release
  split <;> simp

/-! ## Flushing -/

theorem settings_isSome_of_maySend (h : s.maySend) : s.settings.isSome := by
  cases hs : s.settings with
  | none => simp [maySend, maxRequests, hs] at h
  | some settings => rfl

theorem flush_frame (now : Nat) (s : Session) : Frame s (s.flush now).session := by
  unfold flush
  split
  · exact release_frame now s
  · exact Frame.refl s

theorem flush_cases (now : Nat) (s : Session) :
    ((s.maySend = false ∨ s.pending = none) ∧ s.flush now = ⟨s, [], []⟩) ∨
    ∃ settings body, s.maySend ∧ s.settings = some settings ∧ s.pending = some body ∧
      s.flush now = ⟨s.cleared.stamp now,
        [.post { address := settings.httpBase, timeout := s.requestTimeout, text := body.text }], []⟩ := by
  unfold flush
  cases hm : s.maySend with
  | false => exact .inl ⟨.inl rfl, rfl⟩
  | true =>
    cases hb : s.pending with
    | none => exact .inl ⟨.inr rfl, by simpa using release_none hb now⟩
    | some body =>
      obtain ⟨settings, hs⟩ := Option.isSome_iff_exists.1 (settings_isSome_of_maySend hm)
      exact .inr ⟨settings, body, rfl, hs, rfl, by simpa using release_eq hs hb now⟩

theorem pending_or_posted {body : Body} (h : s.pending = some body) (now : Nat) :
    (s.flush now).session.pending = some body ∨ ∃ request ∈ (s.flush now).posts, request.text = body.text := by
  rcases flush_cases now s with ⟨-, hf⟩ | ⟨settings, body', -, -, hbody, hf⟩
  · exact .inl (by rw [hf, h])
  · obtain rfl : body = body' := Option.some.inj (h.symm.trans hbody)
    exact .inr (by rw [hf]; exact ⟨_, List.mem_singleton_self _, rfl⟩)

/-- What is pending goes out when nothing is unanswered, if it may go out then. -/
theorem outstanding_flush_ne_zero (hp : s.pending.isSome) (hm : s.outstanding = 0 → s.maySend)
    (now : Nat) : (s.flush now).session.outstanding ≠ 0 := by
  rcases flush_cases now s with ⟨hidle, hf⟩ | ⟨_, _, -, -, -, hf⟩
  · rw [hf]
    intro ho
    rcases hidle with hidle | hidle
    · simp [hm ho] at hidle
    · simp [hidle] at hp
  · rw [hf]
    exact Nat.succ_ne_zero _

@[simp] theorem alarms_flush (now : Nat) (s : Session) : (s.flush now).alarms = [] := by
  unfold flush
  split <;> simp

@[simp] theorem notices_flush (now : Nat) (s : Session) : (s.flush now).notices = [] := by
  unfold flush
  split <;> simp

/-! ## Keeping a request open -/

theorem keepOpen_frame (now : Nat) (s : Session) : Frame s (s.keepOpen now).session := by
  unfold keepOpen
  split
  · exact Frame.refl s
  · split
    · split
      · exact flush_frame now s
      · exact Frame.refl s
    · exact Frame.refl s

/-- Keeping a request open does nothing while one is unanswered or there is no stream; else it
flushes what is pending, or sets an alarm. -/
theorem keepOpen_cases (now : Nat) (s : Session) :
    ((s.stream = none ∨ s.outstanding ≠ 0) ∧ s.keepOpen now = ⟨s, [], []⟩) ∨
    (s.outstanding = 0 ∧ s.pending.isSome ∧ s.keepOpen now = s.flush now) ∨
    ∃ stream, s.stream = some stream ∧ s.outstanding = 0 ∧ s.pending = none ∧
      s.keepOpen now = ⟨s, [.arm s.timings.continuation (.continuation stream.rid)], []⟩ := by
  unfold keepOpen
  cases hs : s.stream with
  | none => exact .inl ⟨.inl rfl, rfl⟩
  | some stream =>
    by_cases ho : s.outstanding = 0
    · cases hp : s.pending with
      | none => exact .inr (.inr ⟨stream, rfl, ho, rfl, by simp [ho]⟩)
      | some body => exact .inr (.inl ⟨ho, rfl, by simp [ho]⟩)
    · exact .inl ⟨.inr ho, by simp [ho]⟩

@[simp] theorem notices_keepOpen (now : Nat) (s : Session) : (s.keepOpen now).notices = [] := by
  rcases keepOpen_cases now s with ⟨-, h⟩ | ⟨-, -, h⟩ | ⟨_, -, -, -, h⟩ <;> simp [h]

theorem startHeartbeat_cases (s : Session) :
    s.startHeartbeat = ⟨s, [], []⟩ ∨
    s.startHeartbeat = ⟨{ s with beating := true },
      [.arm s.timings.heartbeat (.heartbeat s.timings.heartbeat)], []⟩ := by
  unfold startHeartbeat
  dsimp only
  split
  · exact .inl rfl
  · exact .inr rfl

theorem startHeartbeat_frame (s : Session) : Frame s s.startHeartbeat.session := by
  rcases startHeartbeat_cases s with h | h <;> rw [h]
  · exact Frame.refl s
  · exact ⟨rfl, rfl, rfl, rfl, rfl, rfl, rfl⟩

@[simp] theorem posts_startHeartbeat (s : Session) : s.startHeartbeat.posts = [] := by
  rcases startHeartbeat_cases s with h | h <;> simp [h]

@[simp] theorem notices_startHeartbeat (s : Session) : s.startHeartbeat.notices = [] := by
  rcases startHeartbeat_cases s with h | h <;> simp [h]

@[simp] theorem pending_startHeartbeat (s : Session) :
    s.startHeartbeat.session.pending = s.pending := by
  rcases startHeartbeat_cases s with h | h <;> simp [h]

@[simp] theorem stream_startHeartbeat (s : Session) : s.startHeartbeat.session.stream = s.stream := by
  rcases startHeartbeat_cases s with h | h <;> simp [h]

@[simp] theorem outstanding_startHeartbeat (s : Session) :
    s.startHeartbeat.session.outstanding = s.outstanding := by
  rcases startHeartbeat_cases s with h | h <;> simp [h]

end Session

/-! ## Outcomes that only send -/

/-- Requests are handed over and counted, and no repetition is planned. -/
structure Sends (s : Session) (o : Outcome) : Prop where
  frame : Frame s o.session
  outstanding : o.session.outstanding = s.outstanding + o.posts.length
  alarms : ∀ d request sid, (d, Alarm.retry request sid) ∉ o.alarms

namespace Sends

open Session

variable {s t : Session} {o : Outcome}

theorem idle (s : Session) : Sends s ⟨s, [], []⟩ := ⟨.refl s, rfl, by simp⟩

theorem of_frame (hf : Frame s t) (ho : t.outstanding = s.outstanding) (h : Sends t o) : Sends s o :=
  ⟨hf.trans h.frame, ho ▸ h.outstanding, h.alarms⟩

theorem andThen {next : Session → Outcome} (h : Sends s o) (h' : Sends o.session (next o.session)) :
    Sends s (o.andThen next) where
  frame := h.frame.trans h'.frame
  outstanding := by
    rw [Outcome.session_andThen, Outcome.posts_andThen, List.length_append, h'.outstanding,
      h.outstanding]
    omega
  alarms d request sid := by
    rw [Outcome.alarms_andThen, List.mem_append, not_or]
    exact ⟨h.alarms d request sid, h'.alarms d request sid⟩

theorem transmit (now : Nat) (text : String) (s : Session) : Sends s (s.transmit now text) := by
  cases hs : s.settings with
  | none =>
    have hlost : s.transmit now text = ⟨s, [], []⟩ := by simp [Session.transmit, hs]
    exact hlost ▸ idle s
  | some settings =>
    rw [transmit_eq hs]
    exact ⟨stamp_frame now s, rfl, by simp⟩

theorem release (now : Nat) (s : Session) : Sends s (s.release now) := by
  unfold Session.release
  split
  · exact idle s
  · exact of_frame (cleared_frame s) rfl (transmit now _ s.cleared)

theorem flush (now : Nat) (s : Session) : Sends s (s.flush now) := by
  unfold Session.flush
  split
  · exact release now s
  · exact idle s

theorem keepOpen (now : Nat) (s : Session) : Sends s (s.keepOpen now) := by
  rcases keepOpen_cases now s with ⟨-, h⟩ | ⟨-, -, h⟩ | ⟨_, -, -, -, h⟩
  · exact h ▸ idle s
  · exact h ▸ flush now s
  · exact h ▸ ⟨.refl s, rfl, by simp⟩

theorem startHeartbeat (s : Session) : Sends s s.startHeartbeat := by
  refine ⟨startHeartbeat_frame s, by simp, ?_⟩
  rcases startHeartbeat_cases s with h | h <;> simp [h]

theorem flush_edit (now : Nat) (f : Body → Body) (s : Session) : Sends s ((s.edit f).flush now) :=
  of_frame (edit_frame f s) (outstanding_edit f s) (flush now _)

end Sends

end XmppBosh.Bosh
