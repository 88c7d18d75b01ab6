import XmppBosh.Proofs.Bosh.Reply

/-!
# What a step can do

* `Started`, `started` : what becomes of a session on connecting;
* `Session.begins` : whether an input begins a session;
* `Course`, `step_course` : a step that begins no session keeps it, ends it, or establishes it;
* `retry_of_mem_alarms` : only a request that went wrong in a session that goes on is repeated;
* `posts_of_no_settings` : nothing is handed over without settings;
* `settings_step` : a step leaves the settings, unless it sets them; `Retains`, `step_retains` : settings and
  streams do not go away;
* `Session.Grounded`, `Grounded.step` : an active session has a stream.
-/

namespace XmppBosh.Bosh

open Xml

namespace Session

variable {s : Session} {now : Nat} {i : Input}

/-- Whether an input begins a session, which has a stream of its own. -/
def begins (i : Input) (s : Session) : Bool :=
  match i with
  | .connect _ => s.settings.isSome && !s.active
  | .resume _ => true
  | _ => false

/-! ## Connecting -/

/-- The state in which errors are forgotten. -/
def renewed (s : Session) : Session := { s with errors := 0, retrying := [] }

/-- The state in which a new session is about to be asked for. -/
def opening (settings : Settings) (start : Nat) (s : Session) : Session :=
  { s.renewed with
    active := true, stream := some { rid := start + 1 }, outstanding := 0
    pending := some (.sessionCreation settings (start + 1)) }

inductive Started (now start : Nat) (s : Session) : Outcome → Prop
  /-- There are no settings. -/
  | refused (settings : s.settings = none) : Started now start s ⟨s, [], []⟩
  /-- The session is active already. -/
  | renewed (settings : s.settings.isSome) (active : s.active) : Started now start s ⟨s.renewed, [], []⟩
  /-- A session begins. -/
  | begun (settings : Settings) (set : s.settings = some settings) (inactive : s.active = false) :
    Started now start s (((s.opening settings start).flush now).andThen startHeartbeat)

theorem connect_of_active (hs : s.settings.isSome) (ha : s.active) (now start : Nat) :
    s.connect now start = ⟨s.renewed, [], []⟩ := by
  obtain ⟨settings, hs⟩ := Option.isSome_iff_exists.1 hs
  simp [connect, hs, ha, renewed]

theorem started (now start : Nat) (s : Session) : Started now start s (s.connect now start) := by
  cases hs : s.settings with
  | none =>
    have h : s.connect now start = ⟨s, [], []⟩ := by simp [connect, hs]
    exact h ▸ .refused hs
  | some settings =>
    cases ha : s.active with
    | true =>
      have hset : s.settings.isSome := by simp [hs]
      exact connect_of_active hset ha now start ▸ .renewed hset ha
    | false =>
      have h : s.connect now start =
          ((s.opening settings start).flush now).andThen startHeartbeat := by
        simp [connect, hs, ha, opening, Session.renewed, Stream.advance]
      exact h ▸ .begun settings hs ha

/-! ## Alarms that go off -/

/-- An active session has a stream. -/
def Grounded (s : Session) : Prop := s.active → s.stream.isSome

theorem fire_retry_eq {settings : Settings} (ha : s.active) (hst : s.stream.isSome)
    (hs : s.settings = some settings) (now : Nat) (request : String) :
    s.fire now (.retry request s.sid?) = ⟨{ s with outstanding := s.outstanding - 1 }.stamp now,
      [.post { address := settings.httpBase, timeout := s.requestTimeout, text := request }], []⟩ := by
  obtain ⟨stream, hst⟩ := Option.isSome_iff_exists.1 hst
  have hsame : s.active && s.stream.map Stream.sid = some s.sid? := by simp [ha, sid?, hst]
  rw [fire, if_pos hsame]
  exact transmit_eq (s := { s with outstanding := s.outstanding - 1 }) hs now request

theorem fire_retry_other {sid : Option String} (h : s.active = false ∨ s.sid? ≠ sid)
    (hg : s.Grounded) (now : Nat) (request : String) :
    s.fire now (.retry request sid) = ⟨s, [], []⟩ := by
  cases ha : s.active with
  | false => simp [fire, ha]
  | true =>
    obtain ⟨stream, hst⟩ := Option.isSome_iff_exists.1 (hg ha)
    have hsid : stream.sid ≠ sid := by simpa [ha, sid?, hst] using h
    simp [fire, ha, hst, hsid]

theorem fire_frame (now : Nat) (a : Alarm) (s : Session) : Frame s (s.fire now a).session := by
  cases a with
  | retry request sid =>
    simp only [fire]
    split
    · have h : Frame s { s with outstanding := s.outstanding - 1 } :=
        ⟨rfl, rfl, rfl, rfl, rfl, rfl, rfl⟩
      exact h.trans (transmit_frame now request _)
    · exact .refl s
  | continuation rid =>
    simp only [fire]
    split
    · exact (edit_frame id s).trans (flush_frame now _)
    · exact .refl s
  | heartbeat period =>
    simp only [fire]
    split
    · exact keepOpen_frame now s
    · exact .refl s

/-! ## The life of a session -/

inductive Course (i : Input) (s t : Session) : Prop
  /-- It goes on as it is. -/
  | keep (active : t.active = s.active) (sid : t.sid? = s.sid?)
  /-- It has ended. -/
  | stop (active : t.active = false) (sid : t.sid? = none)
  /-- A body has been opened that may give it its identifier. -/
  | establish (body : Element) (input : i = .openBody body) (terminal : isTerminal body = false)
      (before : s.active) (active : t.active) (unset : s.sid? = none)
      (sid : t.sid? = s.stream.bind fun _ => body.attr? "sid")

theorem Course.ofFrame {t : Session} (h : Frame s t) : Course i s t := .keep h.active h.sid?

theorem connect_course {start : Nat} (h : s.begins (.connect start) = false) :
    Course i s (s.connect now start).session := by
  have hc := started now start s
  generalize s.connect now start = o at hc ⊢
  cases hc with
  | refused => exact .ofFrame (.refl s)
  | renewed => exact .keep rfl rfl
  | begun settings hs ha => simp [begins, hs, ha] at h

theorem answer_course (request : String) (r : Reply) :
    Course i s (s.answer now request r).session := by
  have h := answered now request r s
  generalize s.answer now request r = o at h ⊢
  cases h with
  | ignored => exact .ofFrame (.refl s)
  | accepted => exact .keep rfl rfl
  | repeated => exact .keep rfl rfl
  | gone => exact .stop (active_giveUp ..) (sid?_giveUp ..)
  | exhausted => exact .stop (active_giveUp ..) (sid?_giveUp ..)

theorem openBody_course (body : Element) : Course (.openBody body) s (s.openBody body).session := by
  have h := opened body s
  generalize s.openBody body = o at h ⊢
  cases h with
  | ignored => exact .ofFrame (.refl s)
  | terminal => exact .stop (active_ended s) (sid?_ended s)
  | establish ha ht stream hst hsid =>
    exact .establish body rfl ht ha ha hsid (by simp [sid?, hst])
  | further => exact .keep rfl rfl

theorem pause_frame (now : Nat) (s : Session) : Frame s (s.pause now).session := by
  unfold pause
  split
  · exact .refl s
  · exact (edit_frame _ s).trans (release_frame now _)

/-- **A step that begins no session** keeps it, ends it, or establishes it. -/
theorem step_course (h : s.begins i = false) (now : Nat) : Course i s (s.step now i).session := by
  cases i with
  | connect start => exact connect_course h
  | disconnect => exact .stop (active_disconnect now s) (sid?_disconnect now s)
  | send stanza => exact .ofFrame ((edit_frame _ s).trans (flush_frame now _))
  | flush => exact .ofFrame (flush_frame now s)
  | restart => exact .ofFrame (edit_frame _ s)
  | pause => exact .ofFrame (pause_frame now s)
  | resume stream => cases h
  | setSettings settings => exact .keep rfl rfl
  | setTimings timings => exact .keep rfl rfl
  | answer request reply => exact answer_course request reply
  | openBody body => exact openBody_course body
  | closeBody =>
    have h := keepOpen_frame now { s with dispatching := s.dispatching - 1 }
    exact .keep h.active h.sid?
  | fire alarm => exact .ofFrame (fire_frame now alarm s)

/-! ## Alarms that are set -/

theorem retry_not_mem_keepOpen {d : Nat} {request : String} {sid : Option String} :
    (d, Alarm.retry request sid) ∉ (s.keepOpen now).alarms := by
  rcases keepOpen_cases now s with ⟨-, h⟩ | ⟨-, -, h⟩ | ⟨stream, -, -, -, h⟩ <;> simp [h]

theorem retry_not_mem_startHeartbeat {d : Nat} {request : String} {sid : Option String} :
    (d, Alarm.retry request sid) ∉ s.startHeartbeat.alarms := by
  rcases startHeartbeat_cases s with h | h <;> simp [h]

@[simp] theorem alarms_pause (now : Nat) (s : Session) : (s.pause now).alarms = [] := by
  unfold pause
  split <;> simp

@[simp] theorem notices_pause (now : Nat) (s : Session) : (s.pause now).notices = [] := by
  unfold pause
  split <;> simp

theorem retry_not_mem_fire {d : Nat} {a : Alarm} {request : String} {sid : Option String} :
    (d, Alarm.retry request sid) ∉ (s.fire now a).alarms := by
  cases a with
  | retry => simp only [fire]; split <;> simp
  | continuation => simp only [fire]; split <;> simp
  | heartbeat =>
    simp only [fire]
    split
    · exact retry_not_mem_keepOpen
    · simp

/-- **Only a request that went wrong** in a session that goes on is repeated, under the identifier
that the session has. -/
theorem retry_of_mem_alarms {d : Nat} {request : String} {sid : Option String}
    (h : (d, Alarm.retry request sid) ∈ (s.step now i).alarms) :
    ∃ r, i = .answer request r ∧ s.active ∧ sid = s.sid? ∧
      (s.step now i).session = s.failed request := by
  cases i with
  | connect start =>
    have hc := started now start s
    simp only [step] at h
    generalize s.connect now start = o at h hc
    cases hc with
    | refused => simp at h
    | renewed => simp at h
    | begun settings =>
      rw [Outcome.alarms_andThen, alarms_flush, List.nil_append] at h
      exact absurd h retry_not_mem_startHeartbeat
  | disconnect => simp [step] at h
  | send stanza => simp [step, send] at h
  | flush => simp [step] at h
  | restart => simp [step] at h
  | pause => simp [step] at h
  | resume stream =>
    rw [step, resume, Outcome.alarms_andThen, List.mem_append] at h
    exact absurd h (not_or.2 ⟨retry_not_mem_keepOpen, retry_not_mem_startHeartbeat⟩)
  | setSettings settings => simp [step] at h
  | setTimings timings => simp [step] at h
  | answer text r =>
    have ha := answered now text r s
    simp only [step] at h ⊢
    generalize s.answer now text r = o at h ha ⊢
    cases ha with
    | ignored => simp at h
    | accepted => simp at h
    | repeated active =>
      simp only [Outcome.alarms_arm, List.mem_singleton, Prod.mk.injEq, Alarm.retry.injEq] at h
      obtain ⟨-, rfl, rfl⟩ := h
      exact ⟨r, rfl, active, rfl, rfl⟩
    | gone => simp at h
    | exhausted => simp at h
  | openBody body =>
    have ho := opened body s
    simp only [step] at h
    generalize s.openBody body = o at h ho
    cases ho <;> simp at h
  | closeBody => exact absurd h retry_not_mem_keepOpen
  | fire alarm => exact absurd h retry_not_mem_fire

/-! ## Requests -/

theorem posts_release_of_no_settings (h : s.settings = none) (now : Nat) :
    (s.release now).posts = [] := by
  cases hb : s.pending with
  | none => rw [release_none hb]; rfl
  | some body => simp [release, hb, transmit, h]

theorem posts_flush_of_no_settings (h : s.settings = none) (now : Nat) :
    (s.flush now).posts = [] := by
  rcases flush_cases now s with ⟨-, hf⟩ | ⟨_, _, -, hs, -⟩
  · rw [hf]; rfl
  · simp [h] at hs

theorem posts_keepOpen_of_no_settings (h : s.settings = none) (now : Nat) :
    (s.keepOpen now).posts = [] := by
  rcases keepOpen_cases now s with ⟨-, hk⟩ | ⟨-, -, hk⟩ | ⟨_, -, -, -, hk⟩
  · rw [hk]; rfl
  · rw [hk, posts_flush_of_no_settings h]
  · rw [hk]; rfl

theorem posts_disconnect_of_no_settings (h : s.settings = none) (now : Nat) :
    (s.disconnect now).posts = [] := by
  have hr := posts_release_of_no_settings ((farewell_frame s).settings.trans h) now
  simp only [disconnect_eq, Outcome.posts] at hr ⊢
  split
  · exact hr
  · rfl

theorem posts_giveUp_of_no_settings (h : s.settings = none) (now : Nat) (reason : String) :
    (s.giveUp now reason).posts = [] :=
  posts_disconnect_of_no_settings (s := { s with outstanding := s.outstanding - 1 }) h now

theorem posts_fire_of_no_settings (h : s.settings = none) (now : Nat) (a : Alarm) :
    (s.fire now a).posts = [] := by
  cases a with
  | retry request sid =>
    simp only [fire]
    split
    · simp [transmit, h]
    · rfl
  | continuation rid =>
    simp only [fire]
    split
    · exact posts_flush_of_no_settings ((edit_frame id s).settings.trans h) now
    · rfl
  | heartbeat period =>
    simp only [fire]
    split
    · exact posts_keepOpen_of_no_settings h now
    · rfl

theorem posts_answer_of_no_settings (h : s.settings = none) (now : Nat) (request : String) (r : Reply) :
    (s.answer now request r).posts = [] := by
  have ha := answered now request r s
  generalize s.answer now request r = o at ha ⊢
  cases ha with
  | ignored => rfl
  | accepted => rfl
  | repeated => rfl
  | gone => exact posts_giveUp_of_no_settings h now _
  | exhausted => exact posts_giveUp_of_no_settings (s := s.failed request) h now _

theorem posts_of_no_settings (h : s.settings = none) (now : Nat) (i : Input) :
    (s.step now i).posts = [] := by
  cases i with
  | connect start =>
    have hc := started now start s
    simp only [step]
    generalize s.connect now start = o at hc ⊢
    cases hc with
    | refused => rfl
    | renewed => rfl
    | begun settings hs => simp [h] at hs
  | disconnect => exact posts_disconnect_of_no_settings h now
  | send stanza => exact posts_flush_of_no_settings ((edit_frame _ s).settings.trans h) now
  | flush => exact posts_flush_of_no_settings h now
  | restart => rfl
  | pause =>
    simp only [step, pause]
    split
    · rfl
    · exact posts_release_of_no_settings ((edit_frame _ s).settings.trans h) now
  | resume stream =>
    have hk := posts_keepOpen_of_no_settings
      (s := { s with active := true, stream := some stream }) h now
    simp [step, resume, hk]
  | setSettings settings => rfl
  | setTimings timings => rfl
  | answer request r => exact posts_answer_of_no_settings h now request r
  | openBody body =>
    have ho := opened body s
    simp only [step]
    generalize s.openBody body = o at ho ⊢
    cases ho <;> rfl
  | closeBody =>
    exact posts_keepOpen_of_no_settings (s := { s with dispatching := s.dispatching - 1 }) h now
  | fire alarm => exact posts_fire_of_no_settings h now alarm

/-! ## Settings and streams -/

theorem settings_step (hi : ∀ st, i ≠ .setSettings st) (now : Nat) (s : Session) :
    (s.step now i).session.settings = s.settings := by
  cases i with
  | setSettings st => exact absurd rfl (hi st)
  | connect start =>
    have hc := started now start s
    simp only [step]
    generalize s.connect now start = out at hc ⊢
    cases hc with
    | refused | renewed => rfl
    | begun st => exact ((flush_frame now (s.opening st start)).trans (startHeartbeat_frame _)).settings
  | disconnect => exact settings_disconnect now s
  | send stanza => exact ((edit_frame _ s).trans (flush_frame now _)).settings
  | flush => exact (flush_frame now s).settings
  | restart => exact (edit_frame _ s).settings
  | pause => exact (pause_frame now s).settings
  | resume stream =>
    exact ((keepOpen_frame now { s with active := true, stream := some stream }).trans
      (startHeartbeat_frame _)).settings
  | setTimings timings => rfl
  | answer request r =>
    have ha := answered now request r s
    simp only [step]
    generalize s.answer now request r = out at ha ⊢
    cases ha with
    | ignored | accepted | repeated => rfl
    | gone => exact settings_giveUp ..
    | exhausted => exact settings_giveUp ..
  | openBody body =>
    have ho := opened body s
    simp only [step]
    generalize s.openBody body = out at ho ⊢
    cases ho <;> rfl
  | closeBody => exact (keepOpen_frame now { s with dispatching := s.dispatching - 1 }).settings
  | fire alarm => exact (fire_frame now alarm s).settings

theorem stream_isSome_step (h : s.stream.isSome) (now : Nat) (i : Input) :
    (s.step now i).session.stream.isSome := by
  cases i with
  | connect start =>
    have hc := started now start s
    simp only [step]
    generalize s.connect now start = o at hc ⊢
    cases hc with
    | refused | renewed => exact h
    | begun st => exact ((flush_frame now (s.opening st start)).trans (startHeartbeat_frame _)).stream_isSome
  | disconnect => simpa [step] using h
  | send stanza => exact ((edit_frame _ s).trans (flush_frame now _)).stream_isSome.trans h
  | flush => exact (flush_frame now s).stream_isSome.trans h
  | restart => exact (edit_frame _ s).stream_isSome.trans h
  | pause => exact (pause_frame now s).stream_isSome.trans h
  | resume stream =>
    exact ((keepOpen_frame now { s with active := true, stream := some stream }).trans
      (startHeartbeat_frame _)).stream_isSome
  | setSettings settings | setTimings timings => exact h
  | answer request r =>
    have ha := answered now request r s
    simp only [step]
    generalize s.answer now request r = o at ha ⊢
    cases ha with
    | ignored | accepted | repeated => exact h
    | gone | exhausted => simpa [failed] using h
  | openBody body =>
    have ho := opened body s
    simp only [step]
    generalize s.openBody body = o at ho ⊢
    cases ho with
    | ignored | further => exact h
    | terminal => simpa using h
    | establish => rfl
  | closeBody => exact (keepOpen_frame now { s with dispatching := s.dispatching - 1 }).stream_isSome.trans h
  | fire alarm => exact (fire_frame now alarm s).stream_isSome.trans h

/-- Settings and streams may change, but they do not go away. -/
structure Retains (s t : Session) : Prop where
  settings : s.settings.isSome → t.settings.isSome
  stream : s.stream.isSome → t.stream.isSome

theorem step_retains (now : Nat) (i : Input) (s : Session) : Retains s (s.step now i).session where
  settings h := by
    cases i with
    | setSettings settings => rfl
    | _ => rwa [settings_step (by simp)]
  stream h := stream_isSome_step h now i

theorem stream_isSome_of_begins (h : s.begins i) (now : Nat) :
    (s.step now i).session.stream.isSome := by
  cases i with
  | connect start =>
    have hc := started now start s
    simp only [step]
    generalize s.connect now start = o at hc ⊢
    cases hc with
    | refused hs => simp [begins, hs] at h
    | renewed hs ha => simp [begins, ha] at h
    | begun settings =>
      rw [Outcome.session_andThen, stream_startHeartbeat, (flush_frame now _).stream_isSome]
      rfl
  | resume stream =>
    rw [step, resume, Outcome.session_andThen, stream_startHeartbeat,
      (keepOpen_frame now _).stream_isSome]
    rfl
  | _ => cases h

theorem sid?_connect {start : Nat} (h : s.begins (.connect start)) (now : Nat) :
    (s.connect now start).session.sid? = none := by
  have hc := started now start s
  generalize s.connect now start = o at hc ⊢
  cases hc with
  | refused hs => simp [begins, hs] at h
  | renewed _ ha => simp [begins, ha] at h
  | begun settings =>
    have hframe := (flush_frame now (s.opening settings start)).trans (startHeartbeat_frame _)
    exact hframe.sid?

theorem Grounded.step (h : s.Grounded) (now : Nat) (i : Input) :
    (s.step now i).session.Grounded := by
  intro ha
  cases hb : s.begins i with
  | true => exact stream_isSome_of_begins hb now
  | false =>
    cases step_course hb now with
    | keep active => exact (step_retains now i s).stream (h (active ▸ ha))
    | stop active => simp [active] at ha
    | establish _ _ _ before => exact (step_retains now i s).stream (h before)

end Session

end XmppBosh.Bosh
