import Mathlib
import XmppBosh.Proofs.Bosh.Resumption
import XmppBosh.Proofs.Bosh.Retry

/-!
# What an earlier session leaves behind

A session that is taken up starts with whatever earlier ones have left behind, and with what was sent while
none was active. Each of these leftovers gets into its way.

* `Session.Busy`, `Busy.step` : requests that are still counted or repeated keep a session waiting;
* `Led` : a body that was pending is the first one to go out;
* `Hindered` : a leftover goes out first, or keeps the session from handing over anything;
* `clear_or_hindered` : a session that is taken up goes on as it should with nothing left over, and else is
  hindered;
* `hindered_of_disconnect` : the last body of an earlier session is enough.
-/

namespace XmppBosh.Bosh

open Xml

namespace Session

variable {s : Session} {i : Input} {now : Nat}

/-! ## Waiting -/

/-- A session that waits for requests, or repeats some. -/
def Busy (s : Session) : Prop := s.outstanding ≠ 0 ∨ s.retrying ≠ []

theorem wakes_of_busy (h : s.Busy) (hi : ∀ request r, i ≠ .answer request r) (hc : i.isCall = false) :
    s.wakes i = false := by
  cases i with
  | answer request r => exact absurd rfl (hi request r)
  | openBody body | closeBody => rfl
  | fire alarm =>
    cases alarm with
    | retry request sid | heartbeat period => rfl
    | continuation n =>
      rcases h with ho | hr
      · simp [wakes, discards, isIdle, ho]
      · simp [wakes, discards, isIdle, hr]
  | _ => cases hc

theorem Busy.fire (h : s.Busy) {rid : Nat} (hrests : s.Rests rid) (hs : s.settings.isSome) (now : Nat)
    (alarm : Alarm) : (s.fire now alarm).session.Busy := by
  rcases h with ho | hr
  · refine .inl ?_
    cases alarm with
    | retry request sid =>
      obtain ⟨settings, hs⟩ := Option.isSome_iff_exists.1 hs
      simp only [Session.fire]
      split
      · rw [transmit_eq (s := { s with outstanding := s.outstanding - 1 }) hs]
        exact Nat.succ_ne_zero _
      · exact ho
    | continuation n => simp [Session.fire, isIdle, ho]
    | heartbeat period =>
      simp only [Session.fire]
      split
      · rwa [(hrests.keepOpen now).1]
      · exact ho
  · refine .inr ?_
    rwa [(fire_frame now alarm s).retrying]

/-- **A session that is busy** stays so until a request is answered or the client asks for something. -/
theorem Busy.step (h : s.Busy) {rid : Nat} (hrests : s.Rests rid) (hs : s.settings.isSome)
    (hi : ∀ request r, i ≠ .answer request r) (hc : i.isCall = false) (now : Nat) :
    (s.step now i).session.Busy := by
  cases i with
  | answer request r => exact absurd rfl (hi request r)
  | openBody body =>
    have ho := opened body s
    simp only [Session.step]
    generalize s.openBody body = o at ho ⊢
    cases ho <;> exact h
  | closeBody =>
    have hrests : Rests rid { s with dispatching := s.dispatching - 1 } := hrests.of_same rfl rfl
    exact (congrArg Busy (hrests.keepOpen now).1).mpr h
  | fire alarm => exact h.fire hrests hs now alarm
  | _ => cases hc

end Session

/-! ## Leftovers -/

/-- The first of some bodies has this heading, or there is none yet and the pending one has it. -/
inductive Led (heading : Option String × Option String) (bodies : List Body) (s : Session) : Prop
  | waiting (none : bodies = []) (body : Body) (pending : s.pending = some body)
      (headed : body.heading = heading)
  | begun (body : Body) (rest : List Body) (bodies : bodies = body :: rest)
      (headed : body.heading = heading)

theorem Led.drafted {heading : Option String × Option String} {bodies : List Body} {s : Session}
    {body : Body} {o : Outcome} (h : Led heading bodies s) (hd : Drafted body s o)
    (hb : body.heading = s.draft.heading) : Led heading (bodies ++ o.posts.map fun _ => body) o.session := by
  cases h with
  | begun first rest hbodies headed => exact .begun first _ (by rw [hbodies, List.cons_append]) headed
  | waiting none waiting hpending headed =>
    have hheaded : body.heading = heading := by rw [hb, Session.draft_of_pending hpending, headed]
    cases hd with
    | kept posts pending rid => exact .waiting (by simp [none, posts]) waiting (pending.trans hpending) headed
    | edited posts pending rid => exact .waiting (by simp [none, posts]) body pending hheaded
    | posted request posts text pending rid => exact .begun body [] (by simp [none, posts]) hheaded

namespace Traffic

open Session

variable {t : Traffic} {m : Move} {i : Input} {now : Nat} {sid : String} {token : Stream} {st : Settings}

/-- What is left over goes out first, or keeps the session from handing over anything. -/
inductive Hindered (sid : String) (token : Stream) (now : Nat) (t : Traffic) : Prop
  /-- A body was pending. The first one that is handed over has its number and its identifier, if any, and
  it goes out at once if nothing else is left over. -/
  | replaced (body : Body) (pending : t.session.pending = some body)
      (first : ∀ later, (t.step now (.call (.resume token))).Lasts later →
        Led body.heading ((stages ((now, .call (.resume token)) :: later) t).flatMap Stage.bodies)
          (t.run ((now, .call (.resume token)) :: later)).session)
      (prompt : t.session.outstanding = 0 → t.session.retrying = [] → t.opened = [] →
        posted (stages [(now, .call (.resume token))] t) = [body.text])
  /-- Requests are still counted or repeated. As long as none is answered and the client asks for nothing,
  no new body is handed over, however long this goes on. -/
  | blocked (busy : t.session.Busy)
      (silent : ∀ later : List (Nat × Move), (∀ x ∈ later, x.2.isCall = false ∧ x.2.isReply = false) →
        (stages ((now, .call (.resume token)) :: later) t).flatMap Stage.bodies = [])
  /-- A request of another session is to be repeated, and is handed over when its time comes. -/
  | repeated (a : Armed) (request : String) (armed : a ∈ t.armed)
      (alarm : a.alarm = .retry request (some sid))
      (sent : ∀ now', ∃ k,
        posted (stages [(now, .call (.resume token)), (now', .fire k)] t) = [request])
  /-- What comes in for another session may end this one before it has handed over anything. -/
  | ended (late : (∃ body ∈ t.arrived, isTerminal body) ∨ t.unanswered ≠ [])
      (silent : ∃ later : List (Nat × Move), (∀ x ∈ later, x.2.isCall = false) ∧
        (t.run ((now, .call (.resume token)) :: later)).session.active = false ∧
        posted (stages ((now, .call (.resume token)) :: later) t) = [])

theorem led_of_lasts {body : Body} (hs : t.session.settings.isSome) (hp : t.session.pending = some body)
    {later : List (Nat × Move)} (hl : (t.step now (.call (.resume token))).Lasts later) :
    Led body.heading ((stages ((now, .call (.resume token)) :: later) t).flatMap Stage.bodies)
      (t.run ((now, .call (.resume token)) :: later)).session := by
  have hbase : Led body.heading ([Stage.mk t.session now (.resume token)].flatMap Stage.bodies)
      (t.session.resume now token).session := by
    have hd := resume_drafted now token t.session
    have hwaiting : Led body.heading [] { t.session with active := true, stream := some token } :=
      .waiting rfl body hp rfl
    rw [List.flatMap_singleton]
    exact hwaiting.drafted hd rfl
  refine (hl.resume_induction (P := fun gs s => Led body.heading (gs.flatMap Stage.bodies) s) hs hbase ?_).1
  intro gs s now i h hs hb ha
  rw [List.flatMap_append, List.flatMap_singleton]
  cases hr : i.isRetry with
  | true =>
    obtain ⟨hpending, -⟩ := step_kept_of_isRetry hr now s
    rw [Stage.bodies_retry hr, List.append_nil]
    cases h with
    | waiting none waiting pending headed => exact .waiting none waiting (hpending.trans pending) headed
    | begun first rest bodies headed => exact .begun first rest bodies headed
  | false =>
    rw [Stage.bodies_eq hr hb ha]
    exact h.drafted (step_drafted hs hb hr ha) (heading_edited i s)

theorem replaced_of_pending {body : Body} (hs : t.session.settings = some st) (hmax : 1 ≤ st.maxRequests)
    (hd : t.session.dispatching = t.opened.length) (hp : t.session.pending = some body) (now : Nat) :
    Hindered sid token now t := by
  refine .replaced body hp (fun later hl => led_of_lasts (by simp [hs]) hp hl) fun ho hr hopened => ?_
  have hkeep := keepOpen_of_pending (s := { t.session with active := true, stream := some token }) rfl ho
    (by simp [hp]) now
  obtain ⟨hsent, -⟩ := flush_of_free (s := { t.session with active := true, stream := some token }) hs hmax
    rfl ho hr hp now
  have hposts : (t.session.resume now token).posts.map Request.text = [body.text] := by
    rw [resume, Outcome.posts_andThen, posts_startHeartbeat, List.append_nil, hkeep]
    exact hsent (by rw [hd, hopened, List.length_nil])
  exact (posted_singleton ⟨t.session, now, .resume token⟩).trans hposts

/-- A session that is taken up with nothing pending hands over nothing at first. -/
theorem rests_resume {s : Session} (hp : s.pending = none) (now : Nat) (token : Stream) :
    (s.resume now token).session.Rests token.rid ∧ (s.resume now token).posts = [] ∧
      (s.resume now token).session.outstanding = s.outstanding := by
  have hrests : Rests token.rid { s with active := true, stream := some token } := ⟨hp, rfl⟩
  obtain ⟨hsession, hposts⟩ := hrests.keepOpen now
  refine ⟨?_, ?_, ?_⟩
  · rw [resume, Outcome.session_andThen, hsession]
    exact hrests.of_same (pending_startHeartbeat _) (rid?_startHeartbeat _)
  · rw [resume, Outcome.posts_andThen, posts_startHeartbeat, hposts, List.append_nil]
  · rw [resume, Outcome.session_andThen, hsession, outstanding_startHeartbeat]

theorem posted_resume (hp : t.session.pending = none) (now : Nat) (token : Stream)
    (later : List (Nat × Move)) :
    posted (stages ((now, .call (.resume token)) :: later) t) =
      posted (stages later (t.step now (.call (.resume token)))) := by
  obtain ⟨-, hposts, -⟩ := rests_resume hp now token
  show posted ([⟨t.session, now, .resume token⟩] ++ stages later _) = _
  rw [posted_append, posted_singleton, Stage.outcome, Session.step, hposts, List.map_nil, List.nil_append]

/-- A session that waits, and has handed over nothing new. -/
structure Stuck (rid : Nat) (gs : List Stage) (t : Traffic) : Prop where
  unused : Unused rid gs t.session
  busy : t.session.Busy
  settings : t.session.settings.isSome

theorem Stuck.step {rid : Nat} {gs : List Stage} (h : Stuck rid gs t)
    (hm : m.isCall = false ∧ m.isReply = false) (hi : t.input? m = some i) (now : Nat) :
    Stuck rid (gs ++ [⟨t.session, now, i⟩]) ((t.consume m).act now i) := by
  have hc := (isCall_input? hi).trans hm.1
  have hanswer : ∀ request r, i ≠ .answer request r := by
    rintro request r rfl
    obtain ⟨k, q, rfl, -⟩ := reply_of_input? hi
    cases hm.2
  constructor
  · rw [session_act]
    exact h.unused.step hc (wakes_of_busy h.busy hanswer hc) now
  · rw [session_act]
    exact h.busy.step h.unused.rests h.settings hanswer hc now
  · rw [session_act]
    exact (step_retains now i t.session).settings h.settings

theorem stuck_resume (hs : t.session.settings.isSome) (hp : t.session.pending = none)
    (hbusy : t.session.Busy) (now : Nat) (token : Stream) :
    Stuck token.rid [⟨t.session, now, .resume token⟩] (t.step now (.call (.resume token))) := by
  obtain ⟨hrests, hposts, hout⟩ := rests_resume hp now token
  have hframe := resume_frame now token t.session
  have hsession : (t.step now (.call (.resume token))).session = (t.session.resume now token).session := rfl
  constructor
  · refine ⟨?_, hsession ▸ hrests⟩
    simp [Stage.bodies, Stage.outcome, Session.step, hposts]
  · rwa [hsession, Busy, hout, hframe.retrying]
  · rwa [hsession, hframe.settings]

theorem blocked_of_busy (hs : t.session.settings.isSome) (hp : t.session.pending = none)
    (hbusy : t.session.Busy) (now : Nat) : Hindered sid token now t := by
  refine .blocked hbusy fun later hlater => ?_
  have hstuck := stuck_resume hs hp hbusy now token
  exact (moves_induction (fun _ _ now _ _ h hm hi => h.step hm hi now) hlater hstuck).unused.bodies

theorem repeated_of_armed {a : Armed} {request : String} (hs : t.session.settings.isSome)
    (hp : t.session.pending = none) (hsid : token.sid = some sid) (ha : a ∈ t.armed)
    (halarm : a.alarm = .retry request (some sid)) (now : Nat) : Hindered sid token now t := by
  refine .repeated a request ha halarm fun now' => ?_
  obtain ⟨k, hk⟩ := List.mem_iff_getElem?.1 ha
  have hframe := resume_frame now token t.session
  have hsession : (t.step now (.call (.resume token))).session = (t.session.resume now token).session := rfl
  have harmed : (t.step now (.call (.resume token))).armed[k]? = some a := by
    show (t.armed ++ _)[k]? = some a
    rw [List.getElem?_append_left (List.getElem?_eq_some_iff.1 hk).1, hk]
  have hfire := posts_fire_retry (s := (t.session.resume now token).session) (by rwa [hframe.settings])
    (fun _ => by rw [hframe.stream_isSome]; rfl) now' request (some sid)
  rw [if_pos ⟨hframe.active, hframe.sid?.trans hsid⟩] at hfire
  refine ⟨k, ?_⟩
  rw [posted_resume hp]
  simpa [stages, input?, harmed, halarm, hsession, posted, Stage.outcome, Session.step] using hfire

def parting : String := "<body xmlns='http://jabber.org/protocol/httpbind' type='terminate'/>"

theorem readBody_parting : ∃ body, readBody parting = .ok body ∧ isTerminal body := by
  have h : (readBody parting).toOption.any isTerminal := by decide +kernel
  cases hread : readBody parting with
  | error why => simp [hread, Except.toOption] at h
  | ok body => exact ⟨body, rfl, by simpa [hread, Except.toOption] using h⟩

theorem step_openBody_terminal {body : Element} {k : Nat} (hb : t.arrived[k]? = some body)
    (ha : t.session.active) (ht : isTerminal body) (now : Nat) :
    (t.step now (.openBody k)).session.active = false ∧
      posted (stages [(now, .openBody k)] t) = [] := by
  have hi : t.input? (.openBody k) = some (.openBody body) := by simp [input?, hb]
  have hstep : t.session.step now (.openBody body) = _ := openBody_terminal ha ht
  constructor
  · rw [step_some hi, session_act, hstep]
    rfl
  · simp [stages, hi, posted, Stage.outcome, hstep]

theorem ended_of_arrived {body : Element} (hp : t.session.pending = none) (hb : body ∈ t.arrived)
    (ht : isTerminal body) (now : Nat) : Hindered sid token now t := by
  obtain ⟨k, hk⟩ := List.mem_iff_getElem?.1 hb
  have hk : (t.step now (.call (.resume token))).arrived[k]? = some body := hk
  have hactive := active_of_begins (s := t.session) (i := .resume token) rfl now
  obtain ⟨hended, hnone⟩ := step_openBody_terminal hk hactive ht now
  refine .ended (.inl ⟨body, hb, ht⟩) ⟨[(now, .openBody k)], by simp [Move.isCall], hended, ?_⟩
  rw [posted_resume hp, hnone]

theorem step_reply_parting {q : Handed} (hq : t.unanswered[0]? = some q) (ha : t.session.active)
    (now : Nat) :
    ∃ body, isTerminal body ∧
      (t.step now (.reply 0 (.response 200 parting))).arrived = t.arrived ++ [body] ∧
      (t.step now (.reply 0 (.response 200 parting))).session.active ∧
      posted (stages [(now, .reply 0 (.response 200 parting))] t) = [] := by
  obtain ⟨body, hread, hterminal⟩ := readBody_parting
  have hreading : (Reply.response 200 parting).reading = .body body := by simp [Reply.reading, hread]
  have hcarried : t.session.carried? (.response 200 parting) = some body := by
    simp [carried?_eq, ha, hreading, Reading.body?]
  have hi : t.input? (.reply 0 (.response 200 parting)) = some (.answer q.text (.response 200 parting)) := by
    simp [input?, hq]
  have hstep : t.session.step now (.answer q.text (.response 200 parting)) = _ :=
    answer_body ha hreading now q.text
  refine ⟨body, hterminal, ?_, ?_, ?_⟩
  · rw [step_some hi, act, arrived_deliver, consume, hcarried]
    rfl
  · rw [step_some hi, session_act, hstep]
    exact ha
  · simp [stages, hi, posted, Stage.outcome, hstep]

theorem ended_of_unanswered (hp : t.session.pending = none) (hu : t.unanswered ≠ []) (now : Nat) :
    Hindered sid token now t := by
  obtain ⟨q, rest, hq⟩ := List.exists_cons_of_ne_nil hu
  have hq : (t.step now (.call (.resume token))).unanswered[0]? = some q := by
    show (t.unanswered ++ _)[0]? = some q
    rw [hq, List.cons_append, List.getElem?_cons_zero]
  have hactive := active_of_begins (s := t.session) (i := .resume token) rfl now
  -- The server answers the old request with a body that ends the session, and this one is opened.
  obtain ⟨body, hterminal, harrived, hactive', hreply⟩ := step_reply_parting hq hactive now
  have hb := List.getElem?_concat_length (l := (t.step now (.call (.resume token))).arrived) (a := body)
  rw [← harrived] at hb
  obtain ⟨hended, hopen⟩ := step_openBody_terminal hb hactive' hterminal now
  refine .ended (.inr hu) ⟨[(now, .reply 0 (.response 200 parting)),
    (now, .openBody (t.step now (.call (.resume token))).arrived.length)], by simp [Move.isCall], hended, ?_⟩
  rw [posted_resume hp]
  show posted (stages ([(now, .reply 0 _)] ++ [(now, .openBody _)]) _) = []
  rw [stages_append, posted_append, hreply, run_cons, run_nil, hopen, List.nil_append]

/-! ## Every client -/

/-- **A session that is taken up goes on as it should, or it is hindered.** A client has been used before,
in whatever way. It has settings that allow requests, and takes a session up. If nothing is left over that
counts for this session, its first request has the number after that of the token and names the session,
and it is handed over as soon as the session has waited, even if the client asks for nothing more. If
something is left over, it goes out first, or it keeps the session from handing over anything new. -/
theorem clear_or_hindered (settings : Option Settings) (timings : Timings) (ms : List (Nat × Move))
    (st : Settings) (now : Nat) (token : Stream) (sid : String)
    (hs : ((start settings timings).run ms).session.settings = some st) (hmax : 1 ≤ st.maxRequests)
    (hsid : token.sid = some sid) :
    let t := (start settings timings).run ms
    (t.Clear sid → Revived sid token now t) ∧ (¬ t.Clear sid → Hindered sid token now t) := by
  intro t
  have hd : t.session.dispatching = t.opened.length := dispatching_run settings timings ms
  have hset : t.session.settings.isSome := by simp [t, hs]
  refine ⟨fun h => revived_of_clear h hs hmax hsid hd now, fun h => ?_⟩
  -- A pending body is the first to go out whatever else is left over, so the other cases have none.
  cases hp : t.session.pending with
  | some body => exact replaced_of_pending hs hmax hd hp now
  | none =>
    by_cases hbusy : t.session.Busy
    · exact blocked_of_busy hset hp hbusy now
    by_cases harmed : ∃ a ∈ t.armed, ∃ request, a.alarm = .retry request (some sid)
    · obtain ⟨a, hmem, request, halarm⟩ := harmed
      exact repeated_of_armed hset hp hsid hmem halarm now
    by_cases harrived : ∃ body ∈ t.arrived, isTerminal body
    · obtain ⟨body, hb, ht⟩ := harrived
      exact ended_of_arrived hp hb ht now
    · refine ended_of_unanswered hp (fun hu => h ?_) now
      obtain ⟨hout, hretrying⟩ : t.session.outstanding = 0 ∧ t.session.retrying = [] := by
        simpa [Busy] using hbusy
      exact ⟨⟨hout, hretrying, hu, by simpa using harrived, by simpa using harmed⟩, hp⟩

/-- A new client can take a session up. One that has ended a session before counts its last body for the
session that it takes up, even when this has been answered, and hands over nothing. -/
theorem hindered_of_disconnect :
    let settings : Settings := { httpBase := "http://localhost/", hostName := "localhost" }
    let content := "<body xmlns='http://jabber.org/protocol/httpbind' sid='s'/>"
    let ms : List (Nat × Move) := [(0, .call (.connect 7)), (0, .reply 0 (.response 200 content)),
      (0, .openBody 0), (0, .closeBody 0), (0, .call .disconnect), (0, .reply 0 (.response 200 content))]
    let token : Stream := { sid := some "S", rid := 100 }
    let later : List (Nat × Move) := [(300, .fire 1), (5000, .fire 0)]
    let t := (start (some settings) {}).run ms
    Revived "S" token 0 (start (some settings) {}) ∧ t.session.active = false ∧ t.unanswered = [] ∧
      ¬ t.Clear "S" ∧ Hindered "S" token 0 t ∧
      (stages ((0, .call (.resume token)) :: later) t).length = 3 ∧
      posted (stages ((0, .call (.resume token)) :: later) t) = [] := by
  intro settings content ms token later t
  have hs : t.session.settings = some settings := by decide +kernel
  have hclear : ¬ t.Clear "S" := by
    intro h
    have hout : t.session.outstanding ≠ 0 := by decide +kernel
    exact hout h.outstanding
  have hnew : (start (some settings) {}).Clear "S" :=
    ⟨⟨rfl, rfl, rfl, List.forall_mem_nil _, List.forall_mem_nil _⟩, rfl⟩
  obtain ⟨hrevived, -⟩ := clear_or_hindered (some settings) {} [] settings 0 token "S" rfl (by decide) rfl
  obtain ⟨-, hhindered⟩ := clear_or_hindered (some settings) {} ms settings 0 token "S" hs (by decide) rfl
  exact ⟨hrevived hnew, by decide +kernel, by decide +kernel, hclear, hhindered hclear, by decide +kernel,
    by decide +kernel⟩

end Traffic

end XmppBosh.Bosh
