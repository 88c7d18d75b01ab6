import XmppBosh.Client.Perform
import XmppBosh.Proofs.Bosh.Traffic

/-!
# A session that is not active stays quiet

Nothing is called back when a session ends. Replies to its requests still come in, its alarms still go
off, and a body that came in is still opened, or the rest of it handed out. The session looks at none of
this until the client asks for something.

* `Session.Sound`, `sound_run` : an active session has a stream, and one that is not active has no
  identifier;
* `Input.isDirective`, `Move.isDirective` : the client asks for a session, takes one up, or ends it;
* `Session.Quiet`, `quiet_step` : whatever else happens to a session that is not active, it stays so, and
  nothing is handed over or announced;
* `Traffic.StaysQuiet`, `quiet_run` : however long this goes on;
* `quiet_of_inactive` : what this says about every run;
* `Traffic.Fresh`, `Fresh.act` : before the first session nothing is on its way.
-/

namespace XmppBosh.Bosh

/-- Whether the client asks for a session, takes one up, or ends it. -/
def Input.isDirective : Input → Bool
  | .connect _ | .resume _ | .disconnect => true
  | _ => false

def Move.isDirective : Move → Bool
  | .call i => i.isDirective
  | _ => false

namespace Session

variable {s : Session} {i : Input} {now : Nat}

/-! ## Soundness -/

/-- An active session has a stream, and one that is not active has no identifier. -/
structure Sound (s : Session) : Prop where
  grounded : s.Grounded
  nameless : s.active = false → s.sid? = none

theorem active_of_begins (h : s.begins i) (now : Nat) : (s.step now i).session.active := by
  cases i with
  | connect start =>
    have hc := started now start s
    simp only [step]
    generalize s.connect now start = o at hc ⊢
    cases hc with
    | refused hs => simp [begins, hs] at h
    | renewed _ ha => simp [begins, ha] at h
    | begun settings =>
      have hframe := (flush_frame now (s.opening settings start)).trans (startHeartbeat_frame _)
      exact hframe.active
  | resume stream =>
    have hframe := (keepOpen_frame now { s with active := true, stream := some stream }).trans
      (startHeartbeat_frame _)
    exact hframe.active
  | _ => cases h

theorem Sound.step (h : s.Sound) (now : Nat) (i : Input) : (s.step now i).session.Sound where
  grounded := h.grounded.step now i
  nameless := by
    intro ha
    cases hb : s.begins i with
    | true => simp [active_of_begins hb] at ha
    | false =>
      cases step_course hb now with
      | keep active sid => exact sid.trans (h.nameless (active ▸ ha))
      | stop _ sid => exact sid
      | establish _ _ _ _ active => simp [active] at ha

/-! ## Sessions that are not active -/

theorem flush_of_inactive (h : s.active = false) (now : Nat) : s.flush now = ⟨s, [], []⟩ := by
  simp [flush, maySend, h]

theorem fire_of_inactive (h : s.active = false) (now : Nat) (a : Alarm) :
    s.fire now a = ⟨s, [], []⟩ := by
  cases a <;> simp [fire, isIdle, h]

theorem maxPause?_of_nameless (h : s.sid? = none) : s.maxPause? = none := by
  cases hs : s.stream with
  | none => simp [maxPause?, hs]
  | some stream =>
    have hsid : stream.sid = none := by simpa [sid?, hs] using h
    simp [maxPause?, hs, hsid]

/-- Nothing is handed over or announced, and the session is not active. -/
structure Quiet (o : Outcome) : Prop where
  active : o.session.active = false
  nameless : o.session.sid? = none
  posts : o.posts = []
  notices : o.notices = []

theorem Quiet.of_frame {t : Session} (ha : s.active = false) (hn : s.sid? = none) (h : Frame s t) :
    Quiet ⟨t, [], []⟩ :=
  ⟨h.active.trans ha, h.sid?.trans hn, rfl, rfl⟩

theorem Quiet.keepOpen (ha : s.active = false) (hn : s.sid? = none) (now : Nat) :
    Quiet (s.keepOpen now) := by
  rcases keepOpen_cases now s with ⟨-, h⟩ | ⟨-, -, h⟩ | ⟨stream, -, -, -, h⟩
  · exact h ▸ .of_frame ha hn (.refl s)
  · rw [h, flush_of_inactive ha]
    exact .of_frame ha hn (.refl s)
  · exact h ▸ ⟨ha, hn, rfl, rfl⟩

/-- **Whatever else happens to a session that is not active** leaves it so, and nothing is handed over
or announced. -/
theorem quiet_step (ha : s.active = false) (hn : s.sid? = none) (hi : i.isDirective = false)
    (now : Nat) : Quiet (s.step now i) := by
  cases i with
  | send stanza =>
    have hedit := edit_frame (Body.push stanza) s
    have hflush := flush_of_inactive (hedit.active.trans ha) now
    rw [step, send, hflush]
    exact .of_frame ha hn hedit
  | flush =>
    rw [step, flush_of_inactive ha]
    exact .of_frame ha hn (.refl s)
  | restart => exact .of_frame ha hn (edit_frame _ s)
  | pause =>
    rw [step, pause, maxPause?_of_nameless hn]
    exact .of_frame ha hn (.refl s)
  | setSettings settings => exact ⟨ha, hn, rfl, rfl⟩
  | setTimings timings => exact ⟨ha, hn, rfl, rfl⟩
  | answer request r =>
    rw [step, answer_inactive ha]
    exact .of_frame ha hn (.refl s)
  | openBody body =>
    rw [step, openBody_inactive ha]
    exact .of_frame ha hn (.refl s)
  | closeBody => exact .keepOpen (s := { s with dispatching := s.dispatching - 1 }) ha hn now
  | fire alarm =>
    rw [step, fire_of_inactive ha]
    exact .of_frame ha hn (.refl s)
  | connect start | resume stream | disconnect => cases hi

theorem step_of_no_stream (ha : s.active = false) (hs : s.stream = none) (hb : s.begins i = false)
    (now : Nat) :
    ∃ t notices, s.step now i = ⟨t, [], notices⟩ ∧ t.active = false ∧ t.stream = none := by
  have hidle (h : s.step now i = ⟨s, [], []⟩) :
      ∃ t notices, s.step now i = ⟨t, [], notices⟩ ∧ t.active = false ∧ t.stream = none :=
    ⟨s, [], h, ha, hs⟩
  have hedit (f : Body → Body) : (s.edit f).active = false ∧ (s.edit f).stream = none := by
    have hframe := edit_frame f s
    exact ⟨hframe.active.trans ha, by simpa [hs] using hframe.stream_isSome⟩
  cases i with
  | connect start =>
    apply hidle
    have hc := started now start s
    simp only [step]
    generalize s.connect now start = o at hc ⊢
    cases hc with
    | refused => rfl
    | renewed _ hactive => simp [ha] at hactive
    | begun settings hset => simp [begins, hset, ha] at hb
  | disconnect =>
    have hdisconnect : s.disconnect now = ⟨s.cleared.ended, [], [.disconnected "logged out"]⟩ := by
      simp [disconnect_eq, hs]
    exact ⟨s.cleared.ended, _, hdisconnect, rfl, by simp [ended, cleared, hs]⟩
  | send stanza =>
    obtain ⟨hactive, hstream⟩ := hedit (Body.push stanza)
    exact ⟨_, [], flush_of_inactive hactive now, hactive, hstream⟩
  | flush => exact hidle (flush_of_inactive ha now)
  | restart => exact ⟨_, [], rfl, hedit _⟩
  | pause => exact hidle (by simp [step, pause, maxPause?, hs])
  | resume stream => cases hb
  | setSettings settings => exact ⟨_, [], rfl, ha, hs⟩
  | setTimings timings => exact ⟨_, [], rfl, ha, hs⟩
  | answer request r => exact hidle (answer_inactive ha now request r)
  | openBody body => exact hidle (openBody_inactive ha body)
  | closeBody =>
    exact ⟨{ s with dispatching := s.dispatching - 1 }, [], by simp [step, closeBody, keepOpen, hs], ha,
      hs⟩
  | fire alarm => exact hidle (fire_of_inactive ha now alarm)

end Session

namespace Traffic

open Session

variable {t : Traffic} {m : Move} {i : Input} {now : Nat}

/-! ## Runs -/

theorem isDirective_of_input? (h : t.input? m = some i) : i.isDirective = m.isDirective := by
  cases m with
  | call j =>
    simp only [input?] at h
    split at h
    · cases h
      rfl
    · cases h
  | _ =>
    obtain ⟨_, -, rfl⟩ := Option.map_eq_some_iff.1 h
    rfl

theorem sound_run (settings : Option Settings) (timings : Timings) (ms : List (Nat × Move)) :
    ((start settings timings).run ms).session.Sound := by
  apply run_induction (P := fun t => t.session.Sound)
  · intro t now m i h _
    rw [session_act]
    exact h.step now i
  · exact ⟨by simp [Grounded, start], fun _ => rfl⟩

/-- Whatever happens from now on is quiet, unless the client asks for something. -/
def StaysQuiet (t : Traffic) : Prop :=
  ∀ later : List (Nat × Move), (∀ x ∈ later, x.2.isDirective = false) →
    (t.run later).session.active = false ∧ ∀ g ∈ stages later t, Quiet g.outcome

theorem quiet_run (ha : t.session.active = false) (hn : t.session.sid? = none) : t.StaysQuiet := by
  intro later hlater
  -- One step leaves a session that is as quiet as before, with the rest of the moves to come.
  induction later generalizing t with
  | nil => exact ⟨ha, by simp [stages]⟩
  | cons x later ih =>
    obtain ⟨now, m⟩ := x
    obtain ⟨hm, hlater⟩ := List.forall_mem_cons.1 hlater
    rw [run_cons, stages]
    cases hi : t.input? m with
    | none =>
      rw [step_none hi]
      simpa using ih ha hn hlater
    | some i =>
      have hquiet := quiet_step ha hn ((isDirective_of_input? hi).trans hm) now
      have hsession : (t.step now m).session = (t.session.step now i).session := by
        rw [step_some hi, session_act]
      obtain ⟨hactive, hstages⟩ := ih (hsession ▸ hquiet.active) (hsession ▸ hquiet.nameless) hlater
      refine ⟨hactive, ?_⟩
      rw [Option.map_some, Option.toList_some, List.singleton_append, List.forall_mem_cons]
      exact ⟨hquiet, hstages⟩

/-- **A session that is not active stays quiet**, whatever it has been through. As long as the client
does not ask for a session, take one up or end this one, be it from inside a listener, it stays inactive,
nothing is handed over and nothing is announced, in whatever order things happen. It cannot be put aside
either. -/
theorem quiet_of_inactive (settings : Option Settings) (timings : Timings) (ms : List (Nat × Move)) :
    let t := (start settings timings).run ms
    (t.session.active → t.session.stream.isSome) ∧
      (t.session.active = false →
        (∀ stream, t.session.stream = some stream → stream.sid = none) ∧ t.StaysQuiet ∧
          ∀ (act : Client.Act) (w : Client.World) (link : Nat), w.link = some link →
            w.session? link = some t.session → w.perform act .pause = (w, .stream none)) := by
  intro t
  obtain ⟨hgrounded, hnameless⟩ := sound_run settings timings ms
  refine ⟨hgrounded, fun ha => ⟨?_, quiet_run ha (hnameless ha), ?_⟩⟩
  · intro stream hs
    simpa [sid?, t, hs] using hnameless ha
  · intro act w link hlink hsession
    have hpause := maxPause?_of_nameless (hnameless ha)
    simp [Client.World.perform, Client.World.performOnLink, Client.World.withSession, hlink, hsession,
      t, hpause]

/-- A listener ends the session while a body is being handed out and a request is to be repeated. What
comes after that does nothing. -/
theorem quiet_after_disconnect :
    let settings : Settings := { httpBase := "http://localhost/", hostName := "localhost" }
    let stanza : Xml.Element := { tag := { name := "message", ns := "jabber:client" } }
    let content := "<body xmlns='http://jabber.org/protocol/httpbind' sid='s' maxpause='9'/>"
    let ms : List (Nat × Move) := [(0, .call (.connect 0)), (0, .call (.send stanza)),
      (0, .reply 0 (.response 200 content)), (0, .openBody 0), (0, .reply 0 (.failure .timeout)),
      (0, .call .disconnect)]
    let later : List (Nat × Move) := [(0, .call .pause), (0, .closeBody 0), (2000, .fire 1),
      (2000, .reply 0 (.response 404 "")), (2000, .call (.send stanza)), (5000, .fire 0)]
    let t := (start (some settings) {}).run ms
    t.session.active = false ∧ (t.run later).session.active = false ∧ (stages later t).length = 6 ∧
      ∀ g ∈ stages later t, Quiet g.outcome := by
  intro settings stanza content ms later t
  have ha : t.session.active = false := by decide +kernel
  have hquiet : t.StaysQuiet := ((quiet_of_inactive (some settings) {} ms).2 ha).2.1
  have hlength : (stages later t).length = 6 := by decide +kernel
  obtain ⟨hactive, hstages⟩ := hquiet later (by decide)
  exact ⟨ha, hactive, hlength, hstages⟩

/-! ## Before the first session -/

/-- The session has not begun, and nothing is on its way. -/
structure Fresh (t : Traffic) : Prop where
  active : t.session.active = false
  stream : t.session.stream = none
  unanswered : t.unanswered = []
  armed : t.armed = []

theorem Fresh.start (settings : Option Settings) (timings : Timings) : (start settings timings).Fresh :=
  ⟨rfl, rfl, rfl, rfl⟩

theorem Fresh.act (h : t.Fresh) (hb : t.session.begins i = false) (m : Move) (now : Nat) :
    ((t.consume m).act now i).Fresh ∧ (t.session.step now i).posts = [] := by
  obtain ⟨s, notices, hstep, ha, hs⟩ := step_of_no_stream h.active h.stream hb now
  have hunanswered : (t.consume m).unanswered = [] := by
    cases m <;> simp [consume, h.unanswered]
  have harmed : (t.consume m).armed = [] := by
    cases m <;> simp [consume, h.armed]
  rw [act_consume hb, hstep]
  exact ⟨⟨ha, hs, by simp [hunanswered], by simp [harmed]⟩, rfl⟩

end Traffic

end XmppBosh.Bosh
