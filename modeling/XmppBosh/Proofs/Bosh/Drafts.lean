import XmppBosh.Proofs.Bosh.Conservation

/-!
# Bodies from their draft to their handing over

A body gets its number and the identifier of the session when it is begun. What is added to it later
leaves both as they are.

* `Body.attr?` : the value of an attribute; `Body.heading` : a body's number and identifier;
* `Session.rid?`, `Session.draftRid?` : the number of the stream, and the one that it has once there is
  a pending body;
* `Session.outgoing` : the body that an input hands over, if it hands over a new one; `posts_step` : it
  hands over nothing else;
* `Drafted`, `step_drafted` : in a session that goes on, the pending body stays, is edited, or goes out;
  `pending_step` : so what is pending was so before, or has just been edited;
* `Session.Lacks` : the pending body has no such attribute; `Lacks.step`, `lacks_connect` : so it stays as
  long as no edit sets it; `NoRestart` : it does not ask for a new stream;
* `Traffic.Lasts` : the moves of a session that goes on.
-/

namespace XmppBosh.Bosh

open Xml

/-! ## Attributes -/

namespace Body

def attr? (name : String) (b : Body) : Option String := b.attributes.lookup name

def heading (b : Body) : Option String × Option String := (b.attr? "rid", b.attr? "sid")

theorem lookup_assign (name value n : String) (l : List (String × String)) :
    (assign name value l).lookup n = if n = name then some value else l.lookup n := by
  induction l with
  | nil =>
    by_cases h : n = name
    · simp [assign, h]
    · simp [assign, List.lookup_cons, beq_false_of_ne h, h]
  | cons a l ih =>
    obtain ⟨k, v⟩ := a
    by_cases hk : k = name
    · subst hk
      by_cases h : n = k
      · simp [assign, h]
      · simp [assign, List.lookup_cons, beq_false_of_ne h, h]
    · by_cases h : n = k
      · subst h
        simp [assign, hk]
      · simp [assign, hk, List.lookup_cons, beq_false_of_ne h, ih]

@[simp] theorem attr?_empty (n : String) : ({} : Body).attr? n = none := rfl

@[simp] theorem attr?_set (name value n : String) (b : Body) :
    (b.set name value).attr? n = if n = name then some value else b.attr? n :=
  lookup_assign name value n b.attributes

theorem attr?_set?_ne {name n : String} (h : n ≠ name) (value : Option String) (b : Body) :
    (b.set? name value).attr? n = b.attr? n := by
  cases value <;> simp [set?, h]

theorem attr?_restart (host : String) (b : Body) : (b.restart host).attr? "xmpp:restart" = some "true" := by
  simp [restart]

@[simp] theorem heading_push (e : Element) (b : Body) : (b.push e).heading = b.heading := rfl

theorem heading_set {name : String} (hr : "rid" ≠ name) (hs : "sid" ≠ name) (value : String)
    (b : Body) : (b.set name value).heading = b.heading := by
  simp [heading, hr, hs]

@[simp] theorem heading_restart (host : String) (b : Body) : (b.restart host).heading = b.heading := by
  simp [heading, restart]

@[simp] theorem heading_numbered (rid : Nat) (sid : Option String) :
    (numbered rid sid).heading = (some (toString rid), sid) := by
  cases sid <;> simp [heading, numbered, set?, unnumbered]

@[simp] theorem heading_sessionCreation (s : Settings) (rid : Nat) :
    (sessionCreation s rid).heading = (some (toString rid), none) := by
  simp [heading, sessionCreation, attr?_set?_ne]

end Body

def Input.isResume : Input → Bool
  | .resume _ => true
  | _ => false

def Input.isRestart : Input → Bool
  | .restart => true
  | _ => false

/-- Whether an input may begin, establish or end a session. -/
def Input.isTurn : Input → Bool
  | .connect _ | .resume _ | .disconnect | .answer _ _ | .openBody _ => true
  | _ => false

namespace Session

variable {s t : Session} {i : Input} {now : Nat}

/-! ## Numbers -/

/-- The number of the last body that was begun. -/
def rid? (s : Session) : Option Nat := s.stream.map Stream.rid

/-- The number of the pending body, or of the one that would be begun next. -/
def draftRid? (s : Session) : Option Nat := if s.pending.isSome then s.rid? else s.rid?.map (· + 1)

@[simp] theorem rid?_edit (f : Body → Body) (s : Session) : (s.edit f).rid? = s.draftRid? := by
  unfold edit draftRid? rid?
  split <;> simp_all

@[simp] theorem draft_edit (f : Body → Body) (s : Session) : (s.edit f).draft = f s.draft := by
  simp [draft]

@[simp] theorem draftRid?_edit (f : Body → Body) (s : Session) :
    (s.edit f).draftRid? = s.draftRid? := by
  simp [draftRid?]

@[simp] theorem rid?_stamp (now : Nat) (s : Session) : (s.stamp now).rid? = s.rid? := by
  simp [stamp, rid?, Function.comp_def]

@[simp] theorem rid?_transmit (now : Nat) (text : String) (s : Session) :
    (s.transmit now text).session.rid? = s.rid? := by
  cases h : s.settings with
  | none => simp [transmit, h]
  | some settings => simp [transmit_eq h]

@[simp] theorem rid?_startHeartbeat (s : Session) : s.startHeartbeat.session.rid? = s.rid? := by
  simp [rid?]

theorem draft_of_pending {body : Body} (h : s.pending = some body) : s.draft = body := by
  simp [draft, h]

theorem draftRid?_of_pending {body : Body} (h : s.pending = some body) : s.draftRid? = s.rid? := by
  simp [draftRid?, h]

/-! ## Bodies that are handed over -/

/-- The pending body, or the one that would be begun next, as an input edits it. -/
def edited (i : Input) (s : Session) : Body :=
  match i with
  | .send stanza => s.draft.push stanza
  | .pause => (s.maxPause?.map fun seconds => s.draft.set "pause" (toString seconds)).getD s.draft
  | .restart => s.draft.restart ((s.settings.map Settings.hostName).getD "")
  | _ => s.draft

/-- The body that an input hands over, if it hands over a new one. -/
def outgoing (i : Input) (s : Session) : Body :=
  match i with
  | .connect start =>
    if s.active then s.draft
    else (s.settings.map fun settings => .sessionCreation settings (start + 1)).getD s.draft
  | .resume stream => { s with stream := some stream }.draft
  | i => if s.discards i then s.cleared.draft.set "type" "terminate" else s.edited i

@[simp] theorem heading_edited (i : Input) (s : Session) : (s.edited i).heading = s.draft.heading := by
  cases i with
  | send stanza => exact Body.heading_push stanza s.draft
  | restart => exact Body.heading_restart _ s.draft
  | pause =>
    unfold edited
    cases s.maxPause? with
    | none => rfl
    | some seconds => exact Body.heading_set (by decide) (by decide) (toString seconds) s.draft
  | _ => rfl

end Session

/-- In a session that goes on, the pending body stays as it is, or it is edited and stays or goes
out. -/
inductive Drafted (body : Body) (s : Session) (o : Outcome) : Prop
  | kept (posts : o.posts = []) (pending : o.session.pending = s.pending)
    (rid : o.session.rid? = s.rid?)
  | edited (posts : o.posts = []) (pending : o.session.pending = some body)
    (rid : o.session.rid? = s.draftRid?)
  | posted (request : Request) (posts : o.posts = [request]) (text : request.text = body.text)
    (pending : o.session.pending = none) (rid : o.session.rid? = s.draftRid?)

namespace Drafted

open Session

variable {s t : Session} {o : Outcome} {body : Body} {now : Nat}

theorem idle (s : Session) (notices : List Notice) : Drafted body s ⟨s, [], notices⟩ := .kept rfl rfl rfl

theorem andThen {next : Session → Outcome} (h : Drafted body s o) (hposts : (next o.session).posts = [])
    (hpending : (next o.session).session.pending = o.session.pending)
    (hrid : (next o.session).session.rid? = o.session.rid?) : Drafted body s (o.andThen next) := by
  cases h with
  | kept posts pending rid => exact .kept (by simp [posts, hposts]) (hpending.trans pending) (hrid.trans rid)
  | edited posts pending rid => exact .edited (by simp [posts, hposts]) (hpending.trans pending) (hrid.trans rid)
  | posted request posts text pending rid =>
    exact .posted request (by simp [posts, hposts]) text (hpending.trans pending) (hrid.trans rid)

theorem startHeartbeat (h : Drafted body s o) : Drafted body s (o.andThen Session.startHeartbeat) :=
  h.andThen (posts_startHeartbeat _) (pending_startHeartbeat _) (rid?_startHeartbeat _)

theorem of_same (h : Drafted body t o) (hp : t.pending = s.pending) (hr : t.rid? = s.rid?) :
    Drafted body s o := by
  have hd : t.draftRid? = s.draftRid? := by simp [draftRid?, hp, hr]
  cases h with
  | kept posts pending rid => exact .kept posts (pending.trans hp) (rid.trans hr)
  | edited posts pending rid => exact .edited posts pending (rid.trans hd)
  | posted request posts text pending rid => exact .posted request posts text pending (rid.trans hd)

theorem release (hs : s.settings.isSome) (now : Nat) : Drafted s.draft s (s.release now) := by
  obtain ⟨settings, hs⟩ := Option.isSome_iff_exists.1 hs
  cases hb : s.pending with
  | none =>
    rw [release_none hb]
    exact idle s []
  | some body =>
    rw [release_eq hs hb, draft_of_pending hb]
    exact .posted _ rfl rfl rfl ((rid?_stamp now s.cleared).trans (draftRid?_of_pending hb).symm)

theorem flush (now : Nat) (s : Session) : Drafted s.draft s (s.flush now) := by
  unfold Session.flush
  split
  · next hm => exact release (settings_isSome_of_maySend hm) now
  · exact idle s []

theorem keepOpen (now : Nat) (s : Session) : Drafted s.draft s (s.keepOpen now) := by
  rcases keepOpen_cases now s with ⟨-, h⟩ | ⟨-, -, h⟩ | ⟨_, -, -, -, h⟩
  · exact h ▸ idle s []
  · exact h ▸ flush now s
  · exact h ▸ .kept rfl rfl rfl

theorem of_edit {f : Body → Body} (h : Drafted (s.edit f).draft (s.edit f) o) :
    Drafted (f s.draft) s o := by
  -- An edit begins the body if there is none, so that what is kept after it has been edited.
  cases h with
  | kept posts pending rid =>
    exact .edited posts (pending.trans (pending_edit f s)) (rid.trans (rid?_edit f s))
  | edited posts pending rid =>
    rw [draft_edit] at pending
    exact .edited posts pending (rid.trans (draftRid?_edit f s))
  | posted request posts text pending rid =>
    rw [draft_edit] at text
    exact .posted request posts text pending (rid.trans (draftRid?_edit f s))

theorem pending_cases {b : Body} (h : Drafted body s o) (hb : o.session.pending = some b) :
    s.pending = some b ∨ b = body := by
  cases h with
  | kept _ pending => exact .inl (pending.symm.trans hb)
  | edited _ pending => exact .inr (Option.some.inj (hb.symm.trans pending))
  | posted _ _ _ pending => simp [pending] at hb

theorem text_of_mem (h : Drafted body s o) {request : Request} (hr : request ∈ o.posts) :
    request.text = body.text := by
  cases h with
  | kept posts => simp [posts] at hr
  | edited posts => simp [posts] at hr
  | posted request' posts text =>
    rw [posts, List.mem_singleton] at hr
    exact hr ▸ text

end Drafted

namespace Session

variable {s : Session} {i : Input} {now : Nat}

/-! ## Steps -/

theorem pause_drafted (hs : s.settings.isSome) (now : Nat) :
    Drafted (s.edited .pause) s (s.pause now) := by
  cases hmax : s.maxPause? with
  | none =>
    rw [pause, hmax]
    exact .idle s []
  | some seconds =>
    have hedit := edit_frame (Body.set "pause" (toString seconds)) s
    have h := Drafted.of_edit (.release (hedit.settings ▸ hs) now)
    simpa [pause, edited, hmax] using h

theorem fire_drafted {alarm : Alarm} (hi : Input.isRetry (.fire alarm) = false) (now : Nat) :
    Drafted s.draft s (s.fire now alarm) := by
  cases alarm with
  | retry request sid => cases hi
  | continuation rid =>
    simp only [fire]
    split
    · exact Drafted.of_edit (.flush now (s.edit id))
    · exact .idle s []
  | heartbeat period =>
    simp only [fire]
    split
    · exact .keepOpen now s
    · exact .idle s []

theorem connect_drafted {start : Nat} {body : Body} (h : s.begins (.connect start) = false) :
    Drafted body s (s.connect now start) := by
  have hc := started now start s
  generalize s.connect now start = o at hc ⊢
  cases hc with
  | refused => exact .idle s []
  | renewed => exact .kept rfl rfl rfl
  | begun settings hs ha => simp [begins, hs, ha] at h

theorem answer_drafted {request : String} {r : Reply} {body : Body}
    (ha : (s.answer now request r).session.active) : Drafted body s (s.answer now request r) := by
  have h := answered now request r s
  generalize s.answer now request r = o at h ha ⊢
  cases h with
  | ignored => exact .idle s []
  | accepted => exact .kept rfl rfl rfl
  | repeated => exact .kept rfl rfl rfl
  | gone => cases ha
  | exhausted => cases ha

theorem openBody_drafted {e : Element} {body : Body} (ha : (s.openBody e).session.active) :
    Drafted body s (s.openBody e) := by
  have h := opened e s
  generalize s.openBody e = o at h ha ⊢
  cases h with
  | ignored => exact .idle s []
  | terminal => cases ha
  | establish _ _ stream hst => exact .kept rfl rfl (by simp [rid?, hst])
  | further => exact .kept rfl rfl rfl

theorem drafted_of_not_isTurn (hs : s.settings.isSome) (hi : i.isRetry = false)
    (ht : i.isTurn = false) (now : Nat) : Drafted (s.edited i) s (s.step now i) := by
  cases i with
  | send stanza => exact Drafted.of_edit (.flush now (s.edit (Body.push stanza)))
  | flush => exact .flush now s
  | restart => exact .edited rfl (pending_edit _ s) (rid?_edit _ s)
  | pause => exact pause_drafted hs now
  | setSettings settings => exact .kept rfl rfl rfl
  | setTimings timings => exact .kept rfl rfl rfl
  | closeBody =>
    have h := Drafted.keepOpen now { s with dispatching := s.dispatching - 1 }
    exact h.of_same rfl rfl
  | fire alarm => exact fire_drafted hi now
  | _ => cases ht

/-- **A step of a session that goes on** leaves the pending body, edits it, or hands it over, unless it
repeats a request. -/
theorem step_drafted (hs : s.settings.isSome) (hb : s.begins i = false) (hi : i.isRetry = false)
    (ha : (s.step now i).session.active) : Drafted (s.edited i) s (s.step now i) := by
  cases i with
  | connect start => exact connect_drafted hb
  | disconnect => cases ha
  | resume stream => cases hb
  | answer request r => exact answer_drafted ha
  | openBody e => exact openBody_drafted ha
  | _ => exact drafted_of_not_isTurn hs hi rfl now

theorem step_kept_of_isRetry (hi : i.isRetry) (now : Nat) (s : Session) :
    (s.step now i).session.pending = s.pending ∧ (s.step now i).session.rid? = s.rid? := by
  obtain ⟨request, sid, rfl⟩ := Input.exists_of_isRetry hi
  simp only [step, fire]
  split
  · exact ⟨pending_transmit .., rid?_transmit ..⟩
  · exact ⟨rfl, rfl⟩

/-- A session that begins has its creation pending or hands it over. -/
theorem begun_drafted {start : Nat} (h : s.begins (.connect start)) (now : Nat) :
    ∃ settings, s.settings = some settings ∧
      Drafted (.sessionCreation settings (start + 1)) (s.opening settings start)
        (s.connect now start) := by
  have hc := started now start s
  generalize s.connect now start = o at hc ⊢
  cases hc with
  | refused hs => simp [begins, hs] at h
  | renewed hs ha => simp [begins, ha] at h
  | begun settings hs ha =>
    exact ⟨settings, hs, (Drafted.flush now (s.opening settings start)).startHeartbeat⟩

theorem text_of_mem_disconnect (hs : s.settings.isSome) {q : Request}
    (hq : q ∈ (s.disconnect now).posts) : q.text = (s.cleared.draft.set "type" "terminate").text := by
  obtain ⟨settings, hs⟩ := Option.isSome_iff_exists.1 hs
  rw [posts_disconnect hs] at hq
  split at hq
  · rw [List.mem_singleton] at hq
    rw [hq]
  · cases hq

theorem text_of_mem_answer {request : String} {r : Reply} (hs : s.settings.isSome) {q : Request}
    (hq : q ∈ (s.answer now request r).posts) : q.text = (s.outgoing (.answer request r)).text := by
  have h := answered now request r s
  generalize s.answer now request r = o at h hq
  cases h with
  | ignored | accepted | repeated => cases hq
  | gone ha content hr =>
    have hd : s.discards (.answer request r) := by simp [discards, ha, hr]
    simp only [outgoing, hd, if_true]
    exact text_of_mem_disconnect (s := { s with outstanding := s.outstanding - 1 }) hs hq
  | exhausted ha reason hr hx =>
    have hd : s.discards (.answer request r) := by simp [discards, ha, hr, hx]
    simp only [outgoing, hd, if_true]
    exact text_of_mem_disconnect
      (s := { s.failed request with outstanding := (s.failed request).outstanding - 1 }) hs hq

/-- **Whatever is not repeated** is handed over as the outgoing body of its step. -/
theorem text_of_mem_posts (hs : s.settings.isSome) (hi : i.isRetry = false) {q : Request}
    (hq : q ∈ (s.step now i).posts) : q.text = (s.outgoing i).text := by
  -- Inputs that may begin or end a session have a body of their own to hand over.
  cases i with
  | connect start =>
    cases hb : s.begins (.connect start) with
    | false =>
      have h : Drafted (s.outgoing (.connect start)) s (s.connect now start) := connect_drafted hb
      exact h.text_of_mem hq
    | true =>
      obtain ⟨settings, hset, h⟩ := begun_drafted hb now
      have ha : s.active = false := by simpa [begins, hset] using hb
      rw [outgoing, ha, hset]
      exact h.text_of_mem hq
  | disconnect => exact text_of_mem_disconnect hs hq
  | resume stream =>
    have h := Drafted.keepOpen now { s with active := true, stream := some stream }
    exact h.startHeartbeat.text_of_mem hq
  | answer request r => exact text_of_mem_answer hs hq
  | openBody e =>
    have ho := opened e s
    simp only [step] at hq
    generalize s.openBody e = o at ho hq
    cases ho <;> cases hq
  | _ => exact (drafted_of_not_isTurn hs hi rfl now).text_of_mem hq

theorem not_discards_of_active (hb : s.begins i = false) (ha : (s.step now i).session.active) :
    s.discards i = false := by
  cases i with
  | connect start => exact hb
  | disconnect => cases ha
  | answer request r =>
    have h := answered now request r s
    simp only [step] at ha
    generalize s.answer now request r = o at h ha
    cases h with
    | ignored hactive => simp [discards, hactive]
    | accepted _ body hr => simp [discards, hr]
    | repeated _ reason hr hx => simp [discards, hr, hx]
    | gone => cases ha
    | exhausted => cases ha
  | _ => rfl

theorem outgoing_of_discards (ha : s.active) (hd : s.discards i) :
    s.outgoing i = s.cleared.draft.set "type" "terminate" := by
  cases i with
  | connect start => simp [discards, begins, ha] at hd
  | disconnect => rfl
  | answer request r => simp [outgoing, hd]
  | _ => cases hd

theorem outgoing_of_not_discards (hb : s.begins i = false) (hd : s.discards i = false) :
    s.outgoing i = s.edited i := by
  cases i with
  | connect start =>
    cases ha : s.active with
    | true => simp [outgoing, edited, ha]
    | false =>
      have hs : s.settings = none := by simpa [begins, ha] using hb
      simp [outgoing, edited, ha, hs]
  | disconnect => cases hd
  | resume stream => cases hb
  | answer request r => simp [outgoing, hd]
  | _ => rfl

/-- **What is pending** after a step that begins no session was pending before, or comes of its edit. -/
theorem pending_step {body : Body} (hs : s.settings.isSome) (hb : s.begins i = false)
    (h : (s.step now i).session.pending = some body) : s.pending = some body ∨ body = s.edited i := by
  cases hretry : i.isRetry with
  | true => exact .inl ((step_kept_of_isRetry hretry now s).1 ▸ h)
  | false =>
    cases i with
    | connect start => exact (connect_drafted hb).pending_cases h
    | disconnect => simp [step] at h
    | resume stream => cases hb
    | answer request r =>
      have ha := answered now request r s
      simp only [step] at h
      generalize s.answer now request r = o at ha h
      cases ha with
      | ignored | accepted | repeated => exact .inl h
      | gone | exhausted => simp at h
    | openBody e =>
      have ho := opened e s
      simp only [step] at h
      generalize s.openBody e = o at ho h
      cases ho <;> exact .inl h
    | _ => exact (drafted_of_not_isTurn hs hretry rfl now).pending_cases h

/-! ## Attributes that are not there -/

/-- The pending body, if there is one, has no such attribute. -/
def Lacks (n : String) (s : Session) : Prop := ∀ body, s.pending = some body → body.attr? n = none

variable {n : String}

theorem Lacks.draft (h : s.Lacks n) (hn : n ∉ ["xmlns", "rid", "sid"]) : s.draft.attr? n = none := by
  simp only [List.mem_cons, List.not_mem_nil, or_false, not_or] at hn
  unfold Session.draft
  split
  · next hp => exact h _ hp
  · simp [Body.numbered, Body.unnumbered, Body.attr?_set?_ne, hn]
  · simp [Body.unnumbered, hn]

/-- No edit sets it, unless it is one of those for a new stream and the client asks for one. -/
theorem Lacks.edited (h : s.Lacks n) (hn : n ∉ ["xmlns", "rid", "sid"]) (hpause : n ≠ "pause")
    (hi : i.isRestart = false ∨ n ∉ ["xmlns:xmpp", "xmpp:restart", "to", "xml:lang"]) :
    (s.edited i).attr? n = none := by
  have hdraft := h.draft hn
  cases i with
  | restart =>
    have hi := hi.resolve_left (by decide)
    simp only [List.mem_cons, List.not_mem_nil, or_false, not_or] at hi
    simp [Session.edited, Body.restart, hdraft, hi]
  | pause =>
    unfold Session.edited
    cases s.maxPause? with
    | none => exact hdraft
    | some seconds => simp [hdraft, hpause]
  | _ => exact hdraft

theorem Lacks.step (h : s.Lacks n) (hs : s.settings.isSome) (hb : s.begins i = false)
    (hedited : (s.edited i).attr? n = none) (now : Nat) : (s.step now i).session.Lacks n := by
  intro body hbody
  rcases pending_step hs hb hbody with hbody | rfl
  · exact h body hbody
  · exact hedited

/-- No attribute is pending after a session has been asked for but one of the body that asks for it. -/
theorem lacks_connect {start : Nat} (h : s.begins (.connect start))
    (hn : ∀ settings rid, (Body.sessionCreation settings rid).attr? n = none) (now : Nat) :
    (s.connect now start).session.Lacks n := by
  obtain ⟨settings, -, hd⟩ := begun_drafted h now
  intro body hbody
  have hsame : body = .sessionCreation settings (start + 1) := by
    rcases hd.pending_cases hbody with hbody | hbody
    · exact (Option.some.inj hbody).symm
    · exact hbody
  rw [hsame, hn]

/-- The pending body, if there is one, does not ask for a new stream. -/
def NoRestart (s : Session) : Prop := ∀ body, s.pending = some body → body.attr? "xmpp:restart" = none

theorem NoRestart.step (h : s.NoRestart) (hs : s.settings.isSome) (hb : s.begins i = false)
    (hi : i.isRestart = false) (now : Nat) : (s.step now i).session.NoRestart :=
  Lacks.step h hs hb (Lacks.edited h (by decide) (by decide) (.inl hi)) now

theorem noRestart_connect {start : Nat} (h : s.begins (.connect start)) (now : Nat) :
    (s.step now (.connect start)).session.NoRestart :=
  lacks_connect h (by simp [Body.sessionCreation, Body.attr?_set?_ne]) now

end Session

namespace Traffic

/-! ## Bodies of a history -/

/-- The new bodies that a step hands over. -/
def Stage.bodies (g : Stage) : List Body :=
  if g.input.isRetry then [] else g.outcome.posts.map fun _ => g.before.outgoing g.input

theorem Stage.bodies_eq {s : Session} {i : Input} {now : Nat} (hi : i.isRetry = false)
    (hb : s.begins i = false) (ha : (s.step now i).session.active) :
    (Stage.mk s now i).bodies = (s.step now i).posts.map fun _ => s.edited i := by
  have hd := Session.not_discards_of_active hb ha
  simp [Stage.bodies, hi, Stage.outcome, Session.outgoing_of_not_discards hb hd]

theorem Stage.bodies_retry {s : Session} {i : Input} {now : Nat} (hi : i.isRetry) :
    (Stage.mk s now i).bodies = [] := by
  simp [Stage.bodies, hi]

/-- The requests that are no repetitions are the texts of these bodies. -/
theorem handedOver_eq {gs : List Stage} (h : ∀ g ∈ gs, g.before.settings.isSome) :
    handedOver false gs = (gs.flatMap Stage.bodies).map Body.text := by
  induction gs with
  | nil => rfl
  | cons g gs ih =>
    obtain ⟨hs, hgs⟩ := List.forall_mem_cons.1 h
    have hg : handedOver false [g] = g.bodies.map Body.text := by
      cases hi : g.input.isRetry with
      | true => simp [handedOver, Stage.bodies, hi]
      | false =>
        have htexts : g.outcome.posts.map Request.text =
            g.outcome.posts.map fun _ => (g.before.outgoing g.input).text :=
          List.map_congr_left fun q hq => Session.text_of_mem_posts hs hi hq
        simpa [handedOver, Stage.bodies, hi] using htexts
    rw [← List.singleton_append, handedOver_append, hg, ih hgs, List.flatMap_append, List.map_append,
      List.flatMap_singleton]

/-! ## Sessions that go on -/

/-- The moves of a session that goes on: it is active after each of them, and takes up no other
stream. -/
def Lasts (ms : List (Nat × Move)) (t : Traffic) : Prop :=
  ∀ g ∈ stages ms t, g.outcome.session.active ∧ g.input.isResume = false

instance (ms : List (Nat × Move)) (t : Traffic) : Decidable (t.Lasts ms) :=
  inferInstanceAs (Decidable (∀ g ∈ stages ms t, _ ∧ _))

variable {t : Traffic} {i : Input} {now start : Nat} {ms : List (Nat × Move)}

theorem not_begins_of_active {s : Session} (ha : s.active) (hi : i.isResume = false) :
    s.begins i = false := by
  cases i with
  | connect start => simp [Session.begins, ha]
  | resume stream => cases hi
  | _ => rfl

/-- What every step of a session that goes on preserves, together with the history so far, holds at its
end. -/
theorem Lasts.induction {P : List Stage → Session → Prop}
    (step : ∀ gs s now i, P gs s → s.settings.isSome → s.begins i = false →
      (s.step now i).session.active → P (gs ++ [⟨s, now, i⟩]) (s.step now i).session)
    {gs : List Stage} (hl : t.Lasts ms) (hs : t.session.settings.isSome) (ha : t.session.active)
    (h : P gs t.session) :
    P (gs ++ stages ms t) (t.run ms).session ∧ (t.run ms).session.settings.isSome ∧
      (t.run ms).session.active := by
  apply history_induction (P := fun gs s => P gs s ∧ s.settings.isSome ∧ s.active)
    (K := fun g => g.outcome.session.active ∧ g.input.isResume = false) _ hl ⟨h, hs, ha⟩
  rintro gs s now i ⟨h, hs, ha⟩ ⟨hactive, hresume⟩
  exact ⟨step gs s now i h hs (not_begins_of_active ha hresume) hactive,
    (Session.step_retains now i s).settings hs, hactive⟩

theorem Lasts.connect_induction {P : List Stage → Session → Prop}
    (hl : t.Lasts ((now, .call (.connect start)) :: ms)) (hb : t.session.begins (.connect start))
    (begun : P [⟨t.session, now, .connect start⟩] (t.session.connect now start).session)
    (step : ∀ gs s now i, P gs s → s.settings.isSome → s.begins i = false →
      (s.step now i).session.active → P (gs ++ [⟨s, now, i⟩]) (s.step now i).session) :
    let opened := (now, .call (.connect start)) :: ms
    P (stages opened t) (t.run opened).session ∧ (t.run opened).session.settings.isSome ∧
      (t.run opened).session.active := by
  intro opened
  obtain ⟨hactive, -⟩ := hl ⟨t.session, now, .connect start⟩ (by simp [stages, input?, Input.isCall])
  have hsettings : t.session.settings.isSome := (Bool.and_eq_true_iff.1 hb).1
  have hrest : (t.step now (.call (.connect start))).Lasts ms :=
    fun g hg => hl g (List.mem_append.2 (.inr hg))
  exact hrest.induction step ((Session.step_retains now _ _).settings hsettings) hactive begun

end Traffic

end XmppBosh.Bosh
