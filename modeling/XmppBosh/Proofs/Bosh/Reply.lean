import XmppBosh.Proofs.Bosh.Outcome

/-!
# What a reply does to a session

* `Reading`, `Reply.reading` : a reply carries a body, tells that the session is gone, or is bad;
* `disconnect`, `giveUp` : the session afterwards, and the last body;
* `Session.failed`, `Session.isExhausted`, `fail_eq` : a request that went wrong is repeated, or the
  session is given up;
* `Session.accept`, `Answered`, `answered` : what becomes of a session with each kind of reply;
* `Opened`, `opened` : what becomes of it when a body is opened.
-/

namespace XmppBosh.Bosh

open Xml

/-! ## Readings -/

/-- What a reply amounts to for an active session. -/
inductive Reading where
  /-- The request is answered. -/
  | body (body : Element)
  /-- The server does not know the session. -/
  | gone (content : String)
  /-- The request went wrong. -/
  | bad (reason : String)

def Reply.reading : Reply → Reading
  | .failure cause => .bad cause.message
  | .response status content =>
    if status = 404 then .gone content
    else if status = 200 ∨ status = 0 then
      match Session.readBody content with
      | .ok body => .body body
      | .error why => .bad ("Bad response: " ++ toString status ++ " " ++ why)
    else .bad ("Bad status: " ++ toString status ++ " " ++ content)

def Reading.body? : Reading → Option Element
  | .body b => some b
  | .gone _ | .bad _ => none

def Reading.isBad : Reading → Bool
  | .bad _ => true
  | .body _ | .gone _ => false

namespace Session

variable {s : Session} {now : Nat}

theorem carried?_eq (r : Reply) (s : Session) :
    s.carried? r = if s.active then r.reading.body? else none := by
  cases r with
  | failure cause => simp [carried?, Reply.reading, Reading.body?]
  | response status content =>
    simp only [carried?, Reply.reading]
    cases ha : s.active with
    | false => simp
    | true =>
      by_cases h404 : status = 404
      · simp [h404, Reading.body?]
      · by_cases hok : status = 200 ∨ status = 0
        · cases hr : readBody content <;> simp [h404, hok, Reading.body?, Except.toOption]
        · simp [h404, hok, Reading.body?]

theorem active_of_carried? {r : Reply} {body : Element} (h : s.carried? r = some body) :
    s.active = true := by
  rw [carried?_eq] at h
  split at h
  · assumption
  · cases h

theorem reading_of_carried? {r : Reply} {body : Element} (h : s.carried? r = some body) :
    r.reading = .body body := by
  have ha := active_of_carried? h
  rw [carried?_eq, if_pos ha] at h
  cases hr : r.reading <;> simp_all [Reading.body?]

/-! ## Ending -/

def ended (s : Session) : Session :=
  { s with active := false, stream := s.stream.map fun stream => { stream with sid := none } }

/-- The state with the session's last body pending, in place of what was. -/
def farewell (s : Session) : Session := s.cleared.edit (Body.set "type" "terminate")

@[simp] theorem active_ended (s : Session) : s.ended.active = false := rfl

@[simp] theorem sid?_ended (s : Session) : s.ended.sid? = none := by
  simp [ended, sid?, Option.bind_map]

@[simp] theorem stream_isSome_ended (s : Session) : s.ended.stream.isSome = s.stream.isSome := by
  simp [ended]

theorem farewell_frame (s : Session) : Frame s s.farewell := (cleared_frame s).trans (edit_frame _ _)

theorem disconnect_eq (now : Nat) (s : Session) :
    s.disconnect now =
      let o : Outcome := if s.stream.isSome then s.farewell.release now else ⟨s.cleared, [], []⟩
      ⟨o.session.ended, o.effects, [.disconnected "logged out"]⟩ := rfl

@[simp] theorem active_disconnect (now : Nat) (s : Session) :
    (s.disconnect now).session.active = false := rfl

@[simp] theorem notices_disconnect (now : Nat) (s : Session) :
    (s.disconnect now).notices = [.disconnected "logged out"] := rfl

@[simp] theorem sid?_disconnect (now : Nat) (s : Session) : (s.disconnect now).session.sid? = none :=
  sid?_ended _

@[simp] theorem pending_disconnect (now : Nat) (s : Session) :
    (s.disconnect now).session.pending = none := by
  simp only [disconnect_eq, ended]
  split <;> simp [cleared]

@[simp] theorem settings_disconnect (now : Nat) (s : Session) :
    (s.disconnect now).session.settings = s.settings := by
  simp only [disconnect_eq, ended]
  split
  · exact ((farewell_frame s).trans (release_frame now _)).settings
  · rfl

@[simp] theorem stream_isSome_disconnect (now : Nat) (s : Session) :
    (s.disconnect now).session.stream.isSome = s.stream.isSome := by
  simp only [disconnect_eq, stream_isSome_ended]
  split
  · exact ((farewell_frame s).trans (release_frame now _)).stream_isSome
  · rfl

@[simp] theorem alarms_disconnect (now : Nat) (s : Session) : (s.disconnect now).alarms = [] := by
  have h := alarms_release now s.farewell
  simp only [disconnect_eq, Outcome.alarms] at h ⊢
  split
  · exact h
  · rfl

theorem posts_disconnect {settings : Settings} (hs : s.settings = some settings) (now : Nat) :
    (s.disconnect now).posts = if s.stream.isSome then
      [{ address := settings.httpBase, timeout := s.farewell.requestTimeout,
         text := (s.cleared.draft.set "type" "terminate").text }]
      else [] := by
  have h : s.farewell.settings = some settings := (farewell_frame s).settings.trans hs
  have hp := release_eq h (pending_edit _ _) now
  simp only [disconnect_eq, Outcome.posts]
  split
  · rw [hp]
    rfl
  · rfl

@[simp] theorem active_giveUp (now : Nat) (reason : String) (s : Session) :
    (s.giveUp now reason).session.active = false := rfl

@[simp] theorem sid?_giveUp (now : Nat) (reason : String) (s : Session) :
    (s.giveUp now reason).session.sid? = none := sid?_ended _

@[simp] theorem pending_giveUp (now : Nat) (reason : String) (s : Session) :
    (s.giveUp now reason).session.pending = none :=
  pending_disconnect now { s with outstanding := s.outstanding - 1 }

@[simp] theorem settings_giveUp (now : Nat) (reason : String) (s : Session) :
    (s.giveUp now reason).session.settings = s.settings :=
  settings_disconnect now { s with outstanding := s.outstanding - 1 }

@[simp] theorem stream_isSome_giveUp (now : Nat) (reason : String) (s : Session) :
    (s.giveUp now reason).session.stream.isSome = s.stream.isSome :=
  stream_isSome_disconnect now { s with outstanding := s.outstanding - 1 }

@[simp] theorem alarms_giveUp (now : Nat) (reason : String) (s : Session) :
    (s.giveUp now reason).alarms = [] :=
  alarms_disconnect now { s with outstanding := s.outstanding - 1 }

@[simp] theorem notices_giveUp (now : Nat) (reason : String) (s : Session) :
    (s.giveUp now reason).notices = [.error reason, .disconnected "logged out"] := rfl

/-! ## Failing -/

/-- The state after a request went wrong that is to be repeated. -/
def failed (request : String) (s : Session) : Session :=
  { s with
    errors := s.errors + 1
    retrying := if s.retrying.contains request then s.retrying else s.retrying ++ [request] }

theorem mem_retrying_failed {request x : String} :
    x ∈ (s.failed request).retrying ↔ x ∈ s.retrying ∨ x = request := by
  unfold failed
  by_cases h : request ∈ s.retrying
  · simp only [List.contains_iff_mem, h, if_true]
    exact ⟨.inl, fun hx => hx.elim id (· ▸ h)⟩
  · simp [h]

theorem nodup_failed (h : s.retrying.Nodup) (request : String) : (s.failed request).retrying.Nodup := by
  unfold failed
  by_cases hm : request ∈ s.retrying
  · simpa [hm] using h
  · simp [hm, List.nodup_append, h]
    exact fun x hx hxr => hm (hxr ▸ hx)

/-- Whether one more error is more than there is time for. -/
def isExhausted (s : Session) : Bool := s.errorTimeout < s.timings.retryDelay * (s.errors + 1)

theorem fail_eq (ha : s.active) (now : Nat) (request reason : String) :
    s.fail now request reason =
      if s.isExhausted then (s.failed request).giveUp now ("Connection error: " ++ reason)
      else ⟨s.failed request, [.arm s.timings.retryDelay (.retry request s.sid?)],
        [.waitingForRetry (s.errors + 1) s.timings.retryDelay]⟩ := by
  simp only [fail, ha, isExhausted, failed, sid?, decide_eq_true_eq, Bool.not_true, Bool.false_eq_true,
    if_false]
  rfl

/-! ## Answering -/

def accept (request : String) (s : Session) : Session :=
  { s with outstanding := s.outstanding - 1, retrying := s.retrying.erase request }

theorem answer_inactive (h : s.active = false) (now : Nat) (request : String) (r : Reply) :
    s.answer now request r = ⟨s, [], []⟩ := by
  simp [answer, h]

theorem answer_body {body : Element} {r : Reply} (ha : s.active) (hr : r.reading = .body body)
    (now : Nat) (request : String) : s.answer now request r = ⟨s.accept request, [], []⟩ := by
  cases r with
  | failure cause => cases hr
  | response status content =>
    simp only [Reply.reading] at hr
    split at hr
    · cases hr
    · next h404 =>
      split at hr
      · next hok =>
        cases hb : readBody content with
        | ok b => simp [answer, ha, h404, hok, hb, accept]
        | error why => simp [hb] at hr
      · cases hr

theorem answer_gone {content : String} {r : Reply} (ha : s.active) (hr : r.reading = .gone content)
    (now : Nat) (request : String) :
    s.answer now request r =
      s.giveUp now ("404 Connection Error (session removed ?!) : " ++ content) := by
  cases r with
  | failure cause => cases hr
  | response status text =>
    simp only [Reply.reading] at hr
    split at hr
    · next h404 =>
      cases hr
      simp [answer, ha, h404]
    · split at hr
      · split at hr <;> cases hr
      · cases hr

theorem answer_bad {reason : String} {r : Reply} (ha : s.active) (hr : r.reading = .bad reason)
    (now : Nat) (request : String) : s.answer now request r = s.fail now request reason := by
  cases r with
  | failure cause =>
    cases hr
    simp [answer, ha]
  | response status content =>
    simp only [Reply.reading] at hr
    split at hr
    · cases hr
    · next h404 =>
      split at hr
      · next hok =>
        cases hb : readBody content with
        | ok b => simp [hb] at hr
        | error why =>
          simp only [hb, Reading.bad.injEq] at hr
          simp [answer, ha, h404, hok, hb, ← hr]
      · next hok =>
        simp only [Reading.bad.injEq] at hr
        simp [answer, ha, h404, hok, ← hr]

inductive Answered (now : Nat) (request : String) (r : Reply) (s : Session) : Outcome → Prop
  /-- A session that is not active does not look at it. -/
  | ignored (active : s.active = false) : Answered now request r s ⟨s, [], []⟩
  /-- The request is answered. -/
  | accepted (active : s.active) (body : Element) (reading : r.reading = .body body) :
    Answered now request r s ⟨s.accept request, [], []⟩
  /-- The request is to be repeated. -/
  | repeated (active : s.active) (reason : String) (reading : r.reading = .bad reason)
    (budget : s.isExhausted = false) :
    Answered now request r s ⟨s.failed request, [.arm s.timings.retryDelay (.retry request s.sid?)],
      [.waitingForRetry (s.errors + 1) s.timings.retryDelay]⟩
  /-- The server does not know the session. -/
  | gone (active : s.active) (content : String) (reading : r.reading = .gone content) :
    Answered now request r s
      (s.giveUp now ("404 Connection Error (session removed ?!) : " ++ content))
  /-- There have been too many errors. -/
  | exhausted (active : s.active) (reason : String) (reading : r.reading = .bad reason)
    (budget : s.isExhausted) :
    Answered now request r s ((s.failed request).giveUp now ("Connection error: " ++ reason))

theorem answered (now : Nat) (request : String) (r : Reply) (s : Session) :
    Answered now request r s (s.answer now request r) := by
  cases ha : s.active with
  | false => exact answer_inactive ha now request r ▸ .ignored ha
  | true =>
    cases hr : r.reading with
    | body body => exact answer_body ha hr now request ▸ .accepted ha body hr
    | gone content => exact answer_gone ha hr now request ▸ .gone ha content hr
    | bad reason =>
      rw [answer_bad ha hr, fail_eq ha]
      cases hx : s.isExhausted with
      | false => exact .repeated ha reason hr hx
      | true => exact .exhausted ha reason hr hx

/-! ## Opening a body -/

theorem openBody_inactive (h : s.active = false) (body : Element) :
    s.openBody body = ⟨s, [], []⟩ := by
  simp [openBody, h]

theorem openBody_terminal {body : Element} (ha : s.active) (ht : isTerminal body) :
    s.openBody body = ⟨s.ended, [], [.disconnected "disconnected by server"]⟩ := by
  simp [openBody, ha, ht, ended]

theorem openBody_establish {body : Element} {stream : Stream} (ha : s.active)
    (ht : isTerminal body = false) (hs : s.stream = some stream) (hn : s.sid? = none) :
    s.openBody body = ⟨{ s with
        dispatching := s.dispatching + 1, stream := some (establish body stream) }, [],
      [.connected]⟩ := by
  have : stream.sid = none := by simpa [sid?, hs] using hn
  simp [openBody, ha, ht, hs, this]

theorem openBody_further {body : Element} (ha : s.active) (ht : isTerminal body = false)
    (hs : s.stream = none ∨ s.sid?.isSome) :
    s.openBody body = ⟨{ s with dispatching := s.dispatching + 1 }, [], []⟩ := by
  cases hst : s.stream with
  | none => simp [openBody, ha, ht, hst]
  | some stream =>
    have : stream.sid.isSome := by simpa [hst, sid?] using hs
    simp [openBody, ha, ht, hst, this]

inductive Opened (body : Element) (s : Session) : Outcome → Prop
  /-- The session has ended meanwhile. -/
  | ignored (active : s.active = false) : Opened body s ⟨s, [], []⟩
  /-- The body ends the session. -/
  | terminal (active : s.active) (terminal : isTerminal body) :
    Opened body s ⟨s.ended, [], [.disconnected "disconnected by server"]⟩
  /-- The body settles what the session is. -/
  | establish (active : s.active) (terminal : isTerminal body = false) (stream : Stream)
    (current : s.stream = some stream) (unset : s.sid? = none) :
    Opened body s ⟨{ s with
        dispatching := s.dispatching + 1, stream := some (establish body stream) }, [],
      [.connected]⟩
  /-- The body is one of many. -/
  | further (active : s.active) (terminal : isTerminal body = false)
    (set : s.stream = none ∨ s.sid?.isSome) :
    Opened body s ⟨{ s with dispatching := s.dispatching + 1 }, [], []⟩

theorem opened (body : Element) (s : Session) : Opened body s (s.openBody body) := by
  cases ha : s.active with
  | false => exact openBody_inactive ha body ▸ .ignored ha
  | true =>
    cases ht : isTerminal body with
    | true => exact openBody_terminal ha ht ▸ .terminal ha ht
    | false =>
      cases hst : s.stream with
      | none => exact openBody_further ha ht (.inl hst) ▸ .further ha ht (.inl hst)
      | some stream =>
        cases hsid : s.sid? with
        | some sid =>
          have h : s.stream = none ∨ s.sid?.isSome := .inr (by simp [hsid])
          exact openBody_further ha ht h ▸ .further ha ht h
        | none => exact openBody_establish ha ht hst hsid ▸ .establish ha ht stream hst hsid

theorem active_answer {request : String} {reply : Reply} {body : Element} (hactive : s.active)
    (hreading : reply.reading = .body body) : (s.answer now request reply).session.active := by
  have ha := answered now request reply s
  generalize s.answer now request reply = o at ha ⊢
  cases ha with
  | ignored | accepted => exact hactive
  | repeated _ _ hr | gone _ _ hr | exhausted _ _ hr => simp [hreading] at hr

theorem active_openBody {body : Element} (hactive : s.active) (hterminal : isTerminal body = false) :
    (s.openBody body).session.active := by
  have ho := opened body s
  generalize s.openBody body = o at ho ⊢
  cases ho with
  | terminal _ ht => simp [hterminal] at ht
  | ignored | establish | further => exact hactive

@[simp] theorem sid_establish (body : Element) (stream : Stream) :
    (establish body stream).sid = body.attr? "sid" := rfl

@[simp] theorem rid_establish (body : Element) (stream : Stream) :
    (establish body stream).rid = stream.rid := rfl

end Session

end XmppBosh.Bosh
