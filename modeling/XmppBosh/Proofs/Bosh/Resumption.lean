import Mathlib
import XmppBosh.Proofs.Bosh.Pause

/-!
# Taking a session up on a client that was used before

Asking for a session forgets what is left over from earlier ones. Taking one up does not: it only puts the
stream back. With nothing left over, the session goes on with the number after that of its token.

* `dispatching_run` : the bodies that are being handed out are counted, over all sessions;
* `posted` : the requests of a history, repetitions included;
* `Clear` : nothing is left over that counts for a session with this identifier;
* `Due`, `Due.step` : the session from when it is taken up to its first request;
* `Revived`, `revived_of_clear` : the first request has the next number, and it is handed over soon.
-/

namespace XmppBosh.Bosh

open Xml

def Move.isReply : Move → Bool
  | .reply _ _ => true
  | _ => false

namespace Session

variable {s : Session} {i : Input} {now : Nat}

/-! ## Bodies that are being handed out -/

theorem dispatching_disconnect (now : Nat) (s : Session) :
    (s.disconnect now).session.dispatching = s.dispatching := by
  rw [disconnect_eq]
  simp only [ended]
  split
  · exact ((farewell_frame s).trans (release_frame now _)).dispatching
  · rfl

theorem dispatching_answer (now : Nat) (request : String) (r : Reply) (s : Session) :
    (s.answer now request r).session.dispatching = s.dispatching := by
  have h := answered now request r s
  generalize s.answer now request r = o at h ⊢
  cases h with
  | ignored | accepted | repeated => rfl
  | gone => exact dispatching_disconnect now { s with outstanding := s.outstanding - 1 }
  | exhausted =>
    exact dispatching_disconnect now
      { s.failed request with outstanding := (s.failed request).outstanding - 1 }

theorem dispatching_openBody (body : Element) (s : Session) :
    (s.openBody body).session.dispatching =
      if s.active && !isTerminal body then s.dispatching + 1 else s.dispatching := by
  have h := opened body s
  generalize s.openBody body = o at h ⊢
  cases h with
  | ignored ha => simp [ha]
  | terminal ha ht => simp [ended, ht]
  | establish ha ht => simp [ha, ht]
  | further ha ht => simp [ha, ht]

theorem dispatching_connect (now start : Nat) (s : Session) :
    (s.connect now start).session.dispatching = s.dispatching := by
  have hc := started now start s
  generalize s.connect now start = o at hc ⊢
  cases hc with
  | refused | renewed => rfl
  | begun settings =>
    have h : Frame (s.opening settings start) _ := (flush_frame now _).trans (startHeartbeat_frame _)
    exact h.dispatching

/-- Only opening and closing a body change how many are being handed out. -/
theorem dispatching_step (ho : ∀ body, i ≠ .openBody body) (hc : i ≠ .closeBody) (now : Nat) :
    (s.step now i).session.dispatching = s.dispatching := by
  cases i with
  | connect start => exact dispatching_connect now start s
  | disconnect => exact dispatching_disconnect now s
  | send stanza => exact ((edit_frame _ s).trans (flush_frame now _)).dispatching
  | flush => exact (flush_frame now s).dispatching
  | restart => exact (edit_frame _ s).dispatching
  | pause => exact (pause_frame now s).dispatching
  | resume stream => exact (resume_frame now stream s).dispatching
  | setSettings settings | setTimings timings => rfl
  | answer request r => exact dispatching_answer now request r s
  | openBody body => exact absurd rfl (ho body)
  | closeBody => exact absurd rfl hc
  | fire alarm => exact (fire_frame now alarm s).dispatching

/-! ## The first request -/

theorem stream_isSome_of_sid? {sid : String} (h : s.sid? = some sid) : s.stream.isSome := by
  cases hst : s.stream with
  | none => simp [sid?, hst] at h
  | some stream => rfl

theorem flush_of_free {st : Settings} {body : Body} (hs : s.settings = some st) (hmax : 1 ≤ st.maxRequests)
    (ha : s.active) (ho : s.outstanding = 0) (hr : s.retrying = []) (hp : s.pending = some body) (now : Nat) :
    (s.dispatching = 0 → (s.flush now).posts.map Request.text = [body.text]) ∧
      (s.dispatching ≠ 0 → s.flush now = ⟨s, [], []⟩) := by
  constructor
  · intro hd
    have hm : s.maySend := by simp [maySend, maxRequests, hd, ha, ho, hr, hs, Nat.lt_of_lt_of_le Nat.one_pos hmax]
    rw [flush, if_pos hm, release_eq hs hp]
    rfl
  · intro hd
    simp [flush, maySend, hd]

theorem keepOpen_of_pending (hst : s.stream.isSome) (ho : s.outstanding = 0) (hp : s.pending.isSome)
    (now : Nat) : s.keepOpen now = s.flush now := by
  rcases keepOpen_cases now s with ⟨hs | hn, -⟩ | ⟨-, -, hk⟩ | ⟨_, -, -, hn, -⟩
  · simp [hs] at hst
  · exact absurd ho hn
  · exact hk
  · simp [hn] at hp

theorem Rests.draft {rid : Nat} {sid : String} (h : s.Rests rid) (hsid : s.sid? = some sid) :
    s.draft = .numbered (rid + 1) (some sid) := by
  obtain ⟨stream, hst, rfl⟩ := Option.map_eq_some_iff.1 h.rid
  have hstream : stream.sid = some sid := by simpa [sid?, hst] using hsid
  simp [Session.draft, h.pending, hst, hstream]

end Session

namespace Traffic

open Session

variable {t : Traffic} {i : Input} {m : Move} {now : Nat} {sid : String} {token : Stream} {st : Settings}

theorem dispatching_act (h : t.session.dispatching = t.opened.length) (hi : t.input? m = some i)
    (now : Nat) : ((t.consume m).act now i).session.dispatching = ((t.consume m).act now i).opened.length := by
  rw [session_act, act, opened_deliver]
  cases m with
  | call j =>
    obtain rfl : i = j := by
      have := call_of_input? hi (isCall_of_input? hi)
      simpa using this.symm
    have hcall := isCall_of_input? hi
    rw [dispatching_step (by rintro body rfl; cases hcall) (by rintro rfl; cases hcall), h]
    rfl
  | reply k r =>
    obtain ⟨q, -, rfl⟩ := Option.map_eq_some_iff.1 hi
    rw [dispatching_step (by simp) (by simp), h]
    rfl
  | openBody k =>
    obtain ⟨body, hb, rfl⟩ := Option.map_eq_some_iff.1 hi
    have hopened : (t.consume (.openBody k)).opened.length =
        if t.handsOut body then t.opened.length + 1 else t.opened.length := by
      cases hands : t.handsOut body <;> simp [consume, hb, Option.filter, hands]
    rw [Session.step, dispatching_openBody, hopened, h]
    rfl
  | closeBody k =>
    obtain ⟨body, hb, rfl⟩ := Option.map_eq_some_iff.1 hi
    have hk := (List.getElem?_eq_some_iff.1 hb).1
    have hkeep := (keepOpen_frame now { t.session with dispatching := t.session.dispatching - 1 }).dispatching
    show (keepOpen now _).session.dispatching = (t.opened.eraseIdx k).length
    rw [hkeep, List.length_eraseIdx_of_lt hk, h]
  | fire k =>
    obtain ⟨a, -, rfl⟩ := Option.map_eq_some_iff.1 hi
    rw [dispatching_step (by simp) (by simp), h]
    rfl

/-- **The bodies that are being handed out** are counted by the session. -/
theorem dispatching_run (settings : Option Settings) (timings : Timings) (ms : List (Nat × Move)) :
    ((start settings timings).run ms).session.dispatching =
      ((start settings timings).run ms).opened.length :=
  run_induction (P := fun t => t.session.dispatching = t.opened.length)
    (fun _ now _ _ h hi => dispatching_act h hi now) rfl ms

/-! ## Requests of a history -/

/-- The requests of a history, repetitions included. -/
def posted (gs : List Stage) : List String := gs.flatMap fun g => g.outcome.posts.map Request.text

theorem posted_append (gs gs' : List Stage) : posted (gs ++ gs') = posted gs ++ posted gs' :=
  List.flatMap_append

theorem posted_singleton (g : Stage) : posted [g] = g.outcome.posts.map Request.text :=
  List.flatMap_singleton ..

theorem posted_concat (gs : List Stage) (g : Stage) :
    posted (gs ++ [g]) = posted gs ++ g.outcome.posts.map Request.text := by
  rw [posted_append, posted_singleton]

theorem bodies_of_posted_nil {gs : List Stage} (h : posted gs = []) : gs.flatMap Stage.bodies = [] := by
  rw [List.flatMap_eq_nil_iff]
  intro g hg
  have hposts : g.outcome.posts = [] := by
    simpa using List.flatMap_eq_nil_iff.1 h g hg
  simp [Stage.bodies, hposts]

/-! ## Leftovers -/

/-- Nothing is on its way, and nothing waits, that counts for a session with this identifier. -/
structure Free (sid : String) (t : Traffic) : Prop where
  outstanding : t.session.outstanding = 0
  retrying : t.session.retrying = []
  unanswered : t.unanswered = []
  arrived : ∀ body ∈ t.arrived, isTerminal body = false
  armed : ∀ a ∈ t.armed, ∀ request, a.alarm ≠ .retry request (some sid)

/-- **Nothing is left over** that counts for a session with this identifier. -/
structure Clear (sid : String) (t : Traffic) : Prop extends Free sid t where
  pending : t.session.pending = none

theorem Free.act (h : t.Free sid) (hb : t.session.begins i = false) (hm : m.isReply = false)
    (ho : (t.session.step now i).session.outstanding = 0)
    (hr : (t.session.step now i).session.retrying = []) (hposts : (t.session.step now i).posts = [])
    (halarms : ∀ d request, (d, Alarm.retry request (some sid)) ∉ (t.session.step now i).alarms) :
    ((t.consume m).act now i).Free sid := by
  rw [act_consume hb]
  refine ⟨ho, hr, ?_, ?_, ?_⟩
  · rw [unanswered_deliver, hposts, List.map_nil, List.append_nil, List.eq_nil_iff_forall_not_mem]
    intro q hq
    have hmem := mem_unanswered_consume hq
    rw [h.unanswered] at hmem
    cases hmem
  · intro body hbody
    refine h.arrived body ?_
    rw [arrived_deliver] at hbody
    cases m with
    | reply k r => cases hm
    | openBody k => exact List.mem_of_mem_eraseIdx hbody
    | _ => exact hbody
  · intro a ha request halarm
    rw [armed_deliver] at ha
    rcases List.mem_append.1 ha with ha | ha
    · obtain ⟨b, hb, -, hab⟩ := mem_armed_consume ha
      exact h.armed b hb request (hab ▸ halarm)
    · obtain ⟨⟨d, alarm⟩, hd, rfl⟩ := List.mem_map.1 ha
      obtain rfl : alarm = .retry request (some sid) := halarm
      exact halarms d request hd

/-! ## Taking a session up -/

theorem resume_of_idle {s : Session} (ho : s.outstanding = 0) (hp : s.pending = none) (now : Nat)
    (token : Stream) :
    s.resume now token = (Outcome.mk { s with active := true, stream := some token }
      [.arm s.timings.continuation (.continuation token.rid)] []).andThen startHeartbeat := by
  have hkeep : keepOpen now { s with active := true, stream := some token } =
      ⟨{ s with active := true, stream := some token },
        [.arm s.timings.continuation (.continuation token.rid)], []⟩ := by
    simp [keepOpen, ho, hp]
  rw [resume, hkeep]

/-- The alarm at which a session asks the server again that has been taken up. -/
def poll (now : Nat) (token : Stream) (t : Traffic) : Armed :=
  ⟨t.count + 1, now + t.session.timings.continuation, .continuation token.rid⟩

/-- A session that has been taken up and is about to hand over its first request: its alarm is set, or the
body has been begun and goes out once no body is being handed out any more. -/
structure Due (sid : String) (token : Stream) (st : Settings) (alarm : Armed) (t : Traffic) : Prop
    extends Free sid t where
  settings : t.session.settings = some st
  active : t.session.active
  named : t.session.sid? = some sid
  dispatching : t.session.dispatching = t.opened.length
  draft : t.session.Rests token.rid ∧ alarm ∈ t.armed ∨
    t.session.pending = some (.numbered (token.rid + 1) (some sid)) ∧ t.opened ≠ []

/-- The first request of a session that is taken up. -/
def opener (sid : String) (token : Stream) : String := (Body.numbered (token.rid + 1) (some sid)).text

theorem poll_mem_armed (h : t.Clear sid) (now : Nat) :
    t.poll now token ∈ (t.step now (.call (.resume token))).armed := by
  show _ ∈ (t.deliver now (t.count + 1) (t.session.resume now token)).armed
  rw [resume_of_idle h.outstanding h.pending, armed_deliver, Outcome.alarms_andThen, Outcome.alarms_arm]
  exact List.mem_append_right _ (List.mem_cons_self ..)

theorem due_resume (h : t.Clear sid) (hs : t.session.settings = some st) (hsid : token.sid = some sid)
    (hd : t.session.dispatching = t.opened.length) (now : Nat) :
    Due sid token st (t.poll now token) (t.step now (.call (.resume token))) := by
  have hresume := resume_of_idle h.outstanding h.pending now token
  have hframe := startHeartbeat_frame { t.session with active := true, stream := some token }
  have hstep : t.step now (.call (.resume token)) =
      t.deliver now (t.count + 1) (t.session.resume now token) := rfl
  rw [hstep, hresume]
  constructor
  · constructor
    · exact (outstanding_startHeartbeat _).trans h.outstanding
    · exact hframe.retrying.trans h.retrying
    · simp [h.unanswered]
    · exact h.arrived
    · intro a ha request halarm
      rw [armed_deliver, Outcome.alarms_andThen, Outcome.alarms_arm, List.singleton_append, List.map_cons] at ha
      rcases List.mem_append.1 ha with ha | ha
      · exact h.armed a ha request halarm
      · rcases List.mem_cons.1 ha with rfl | ha
        · cases halarm
        · obtain ⟨⟨d, alarm⟩, hd, rfl⟩ := List.mem_map.1 ha
          obtain rfl : alarm = .retry request (some sid) := halarm
          exact retry_not_mem_startHeartbeat hd
  · exact hframe.settings.trans hs
  · exact hframe.active
  · exact hframe.sid?.trans hsid
  · exact hframe.dispatching.trans hd
  · refine .inl ⟨⟨?_, ?_⟩, ?_⟩
    · exact (pending_startHeartbeat _).trans h.pending
    · exact (rid?_startHeartbeat _).trans rfl
    · exact hresume ▸ hstep ▸ poll_mem_armed h now

theorem mem_consume_fire {a b : Armed} {k : Nat} (hb : b ∈ t.armed) (ha : t.armed[k]? = some a)
    (hne : b ≠ a) : b ∈ (t.consume (.fire k)).armed := by
  refine List.mem_append_left _ ?_
  rw [List.mem_eraseIdx_iff_getElem?]
  obtain ⟨j, hj⟩ := List.mem_iff_getElem?.1 hb
  refine ⟨j, ?_, hj⟩
  rintro rfl
  exact hne (Option.some.inj (hj.symm.trans ha))

theorem Due.act {alarm : Armed} {d : Nat} (h : Due sid token st alarm t) (hi : t.input? m = some i)
    (hb : t.session.begins i = false) (hm : m.isReply = false)
    (hframe : Frame { t.session with dispatching := d } (t.session.step now i).session)
    (ho : (t.session.step now i).session.outstanding = t.session.outstanding)
    (hposts : (t.session.step now i).posts = [])
    (halarms : ∀ d request sid, (d, Alarm.retry request sid) ∉ (t.session.step now i).alarms)
    (hdraft : (t.session.step now i).session.Rests token.rid ∧ alarm ∈ (t.consume m).armed ∨
      (t.session.step now i).session.pending = some (.numbered (token.rid + 1) (some sid)) ∧
        (t.consume m).opened ≠ []) :
    Due sid token st alarm ((t.consume m).act now i) := by
  have hretrying := hframe.retrying.trans h.retrying
  constructor
  · exact h.toFree.act hb hm (ho.trans h.outstanding) hretrying hposts fun d request =>
      halarms d request (some sid)
  · rw [session_act]
    exact hframe.settings.trans h.settings
  · rw [session_act]
    exact hframe.active.trans h.active
  · rw [session_act]
    exact hframe.sid?.trans h.named
  · exact dispatching_act h.dispatching hi now
  · rw [session_act]
    rcases hdraft with ⟨hrests, hmem⟩ | hpending
    · exact .inl ⟨hrests, List.mem_append_left _ hmem⟩
    · exact .inr hpending

theorem Due.idle {alarm : Armed} {d : Nat} {s : Session} (h : Due sid token st alarm t)
    (hi : t.input? m = some i) (hb : t.session.begins i = false) (hm : m.isReply = false)
    (hstep : t.session.step now i = ⟨s, [], []⟩) (hframe : Frame { t.session with dispatching := d } s)
    (ho : s.outstanding = t.session.outstanding)
    (hdraft : s.Rests token.rid ∧ alarm ∈ (t.consume m).armed ∨
      s.pending = some (.numbered (token.rid + 1) (some sid)) ∧ (t.consume m).opened ≠ []) :
    (t.session.step now i).posts = [] ∧ Due sid token st alarm ((t.consume m).act now i) := by
  have hposts : (t.session.step now i).posts = [] := by rw [hstep, Outcome.posts_nil]
  have hsession : (t.session.step now i).session = s := by rw [hstep]
  refine ⟨hposts, h.act hi hb hm (hsession ▸ hframe) (hsession ▸ ho) hposts ?_ (hsession ▸ hdraft)⟩
  simp [hstep]

theorem Due.keepOpen {alarm : Armed} {d : Nat} (h : Due sid token st alarm t) (hmax : 1 ≤ st.maxRequests)
    (hi : t.input? m = some i) (hb : t.session.begins i = false) (hm : m.isReply = false)
    (hstep : t.session.step now i = Session.keepOpen now { t.session with dispatching := d })
    (hd : d = (t.consume m).opened.length) (hmem : alarm ∈ t.armed → alarm ∈ (t.consume m).armed) :
    (t.session.step now i).posts.map Request.text = [opener sid token] ∨
      (t.session.step now i).posts = [] ∧ Due sid token st alarm ((t.consume m).act now i) := by
  have hframe : Frame { t.session with dispatching := d } (t.session.step now i).session :=
    hstep ▸ keepOpen_frame now _
  have halarms : ∀ d request sid, (d, Alarm.retry request sid) ∉ (t.session.step now i).alarms := by
    rw [hstep]
    exact fun _ _ _ => retry_not_mem_keepOpen
  rcases h.draft with ⟨hrests, halarm⟩ | ⟨hpending, -⟩
  · have hrests' : Rests token.rid { t.session with dispatching := d } := hrests.of_same rfl rfl
    obtain ⟨hsession, hposts⟩ := hrests'.keepOpen now
    rw [← hstep] at hsession hposts
    refine .inr ⟨hposts, h.act hi hb hm hframe ?_ hposts halarms (.inl ⟨?_, hmem halarm⟩)⟩
    · rw [hsession]
    · exact (congrArg (Rests token.rid) hsession).mpr hrests'
  · have hkeep : Session.keepOpen now { t.session with dispatching := d } =
        Session.flush now { t.session with dispatching := d } :=
      keepOpen_of_pending (s := { t.session with dispatching := d }) (stream_isSome_of_sid? h.named) h.outstanding
        (by simp [hpending]) now
    obtain ⟨hsent, hheld⟩ := flush_of_free (s := { t.session with dispatching := d }) h.settings hmax
      h.active h.outstanding h.retrying hpending now
    rw [hkeep] at hstep
    by_cases hzero : d = 0
    · rw [hstep]
      exact .inl (hsent hzero)
    · refine .inr (h.idle hi hb hm (hstep.trans (hheld hzero)) (.refl _) rfl (.inr ⟨hpending, ?_⟩))
      rintro hopened
      rw [hopened] at hd
      exact hzero hd

theorem Due.continuation {alarm a : Armed} {k n : Nat} (h : Due sid token st alarm t)
    (hmax : 1 ≤ st.maxRequests) (halarm : alarm.alarm = .continuation token.rid)
    (ha : t.armed[k]? = some a) (hn : a.alarm = .continuation n) (now : Nat) :
    (t.session.fire now (.continuation n)).posts.map Request.text = [opener sid token] ∨
      (t.session.fire now (.continuation n)).posts = [] ∧
        Due sid token st alarm ((t.consume (.fire k)).act now (.fire (.continuation n))) := by
  have hi : t.input? (.fire k) = some (.fire (.continuation n)) := by simp [input?, ha, hn]
  cases hidle : t.session.isIdle n with
  | false =>
    have hfire : t.session.fire now (.continuation n) = ⟨t.session, [], []⟩ := by simp [fire, hidle]
    refine .inr (h.idle (d := t.session.dispatching) hi rfl rfl hfire (.refl t.session) rfl ?_)
    rcases h.draft with ⟨hrests, hmem⟩ | hpending
    · refine .inl ⟨hrests, mem_consume_fire hmem ha ?_⟩
      -- The alarm that is due would have found the session idle.
      rintro rfl
      have hrid : n = token.rid := by simpa [hn] using halarm
      have hwakes := (hrests.idle h.active h.outstanding h.retrying).1
      simp [wakes, discards, ← hrid, hidle] at hwakes
    · exact .inr hpending
  | true =>
    have hnone : t.session.pending = none := by
      simp only [isIdle, Bool.and_eq_true, Option.isNone_iff_eq_none] at hidle
      exact hidle.1.1.1.2
    have hrests : t.session.Rests token.rid := by
      rcases h.draft with ⟨hrests, -⟩ | ⟨hpending, -⟩
      · exact hrests
      · simp [hnone] at hpending
    have hpending : (t.session.edit id).pending = some (.numbered (token.rid + 1) (some sid)) := by
      rw [pending_edit, hrests.draft h.named]
      rfl
    have hframe := edit_frame id t.session
    obtain ⟨hsent, hheld⟩ := flush_of_free (s := t.session.edit id) (hframe.settings.trans h.settings) hmax
      (hframe.active.trans h.active) ((outstanding_edit id _).trans h.outstanding)
      (hframe.retrying.trans h.retrying) hpending now
    have hfire : t.session.fire now (.continuation n) = (t.session.edit id).flush now := by
      simp [fire, hidle]
    -- The body has been begun, and goes out unless a body from the server is being handed out.
    by_cases hzero : t.session.dispatching = 0
    · rw [hfire]
      exact .inl (hsent (hframe.dispatching.trans hzero))
    · have hidle := hfire.trans (hheld (by rwa [hframe.dispatching]))
      refine .inr (h.idle (d := t.session.dispatching) hi rfl rfl hidle hframe (outstanding_edit id _) ?_)
      refine .inr ⟨hpending, fun hopened => hzero ?_⟩
      have hnil : t.opened = [] := hopened
      rw [h.dispatching, hnil, List.length_nil]

theorem Due.openBody {alarm : Armed} {body : Element} {k : Nat} (h : Due sid token st alarm t)
    (hb : t.arrived[k]? = some body) (now : Nat) :
    (t.session.openBody body).posts = [] ∧
      Due sid token st alarm ((t.consume (.openBody k)).act now (.openBody body)) := by
  have hi : t.input? (.openBody k) = some (.openBody body) := by simp [input?, hb]
  have hstep : t.session.step now (.openBody body) =
      ⟨{ t.session with dispatching := t.session.dispatching + 1 }, [], []⟩ :=
    openBody_further h.active (h.arrived body (List.mem_of_getElem? hb)) (.inr (by simp [h.named]))
  refine h.idle (d := t.session.dispatching + 1) hi rfl rfl hstep (.refl _) rfl ?_
  rcases h.draft with ⟨hrests, hmem⟩ | ⟨hpending, hopened⟩
  · exact .inl ⟨hrests.of_same rfl rfl, hmem⟩
  · refine .inr ⟨hpending, ?_⟩
    simp [consume, hopened]

theorem Due.fire {alarm a : Armed} {k : Nat} (h : Due sid token st alarm t) (hmax : 1 ≤ st.maxRequests)
    (halarm : alarm.alarm = .continuation token.rid) (ha : t.armed[k]? = some a) (now : Nat) :
    (t.session.fire now a.alarm).posts.map Request.text = [opener sid token] ∨
      (t.session.fire now a.alarm).posts = [] ∧
        Due sid token st alarm ((t.consume (.fire k)).act now (.fire a.alarm)) := by
  have hi : t.input? (.fire k) = some (.fire a.alarm) := by simp [input?, ha]
  have hmem (hne : a.alarm ≠ .continuation token.rid) :
      alarm ∈ t.armed → alarm ∈ (t.consume (.fire k)).armed := by
    intro hmem
    refine mem_consume_fire hmem ha ?_
    rintro rfl
    exact hne halarm
  cases hn : a.alarm with
  | retry request sid' =>
    have hother : t.session.sid? ≠ sid' := by
      rintro rfl
      exact h.armed a (List.mem_of_getElem? ha) request (by rw [hn, h.named])
    have hfire := fire_retry_other (.inr hother) (fun _ => (stream_isSome_of_sid? h.named)) now request
    rw [hn] at hi hmem
    refine .inr (h.idle (d := t.session.dispatching) hi rfl rfl hfire (.refl t.session) rfl ?_)
    exact h.draft.imp_left (And.imp_right (hmem (by simp)))
  | continuation n => exact h.continuation hmax halarm ha hn now
  | heartbeat period =>
    have hgo : (t.session.active && t.session.retrying.isEmpty) = true := by simp [h.active, h.retrying]
    have hstep : t.session.step now (.fire (.heartbeat period)) =
        Session.keepOpen now { t.session with dispatching := t.session.dispatching } := if_pos hgo
    rw [hn] at hi hmem
    exact h.keepOpen hmax hi rfl rfl hstep h.dispatching (hmem (by simp))

/-- **Until its first request** a session that has been taken up stays due, whatever happens that the
client does not ask for, and its first request is the one with the next number. -/
theorem Due.step {alarm : Armed} (h : Due sid token st alarm t) (hmax : 1 ≤ st.maxRequests)
    (halarm : alarm.alarm = .continuation token.rid) (hi : t.input? m = some i) (hc : i.isCall = false)
    (now : Nat) :
    (t.session.step now i).posts.map Request.text = [opener sid token] ∨
      (t.session.step now i).posts = [] ∧ Due sid token st alarm ((t.consume m).act now i) := by
  cases m with
  | call j => simp [isCall_of_input? hi] at hc
  | reply k r => simp [input?, h.unanswered] at hi
  | openBody k =>
    obtain ⟨body, hb, rfl⟩ := Option.map_eq_some_iff.1 hi
    exact .inr (h.openBody hb now)
  | closeBody k =>
    obtain ⟨body, hb, hclose⟩ := Option.map_eq_some_iff.1 hi
    subst hclose
    have hk := (List.getElem?_eq_some_iff.1 hb).1
    refine h.keepOpen (d := t.session.dispatching - 1) hmax hi rfl rfl rfl ?_ id
    rw [h.dispatching]
    exact (List.length_eraseIdx_of_lt hk).symm
  | fire k =>
    obtain ⟨a, ha, rfl⟩ := Option.map_eq_some_iff.1 hi
    exact h.fire hmax halarm ha now

/-! ## What goes right -/

/-- A session that is taken up goes on with the number after that of the token. -/
structure Revived (sid : String) (token : Stream) (now : Nat) (t : Traffic) : Prop where
  /-- An alarm is set for when the session has waited. -/
  armed : t.poll now token ∈ (t.step now (.call (.resume token))).armed
  /-- If the client asks for nothing more, the first request is the one with the next number, and it has
  been handed over once the alarm has gone off and no body is being handed out. -/
  soon : ∀ later : List (Nat × Move), (∀ x ∈ later, x.2.isCall = false) →
    let resumed := (now, .call (.resume token)) :: later
    (t.poll now token ∈ (t.run resumed).armed ∨ (t.run resumed).opened ≠ []) ∧
        posted (stages resumed t) = [] ∨
      ∃ rest, posted (stages resumed t) = opener sid token :: rest
  /-- Whatever the client asks for, the first request has the next number and names the session, unless
  this very step discards the body with that number. -/
  first : ∀ later : List (Nat × Move), (t.step now (.call (.resume token))).Lasts later →
    let resumed := (now, .call (.resume token)) :: later
    let s := (t.run resumed).session
    posted (stages resumed t) = [] → ∀ now m i, (t.run resumed).input? m = some i →
      i.isResume = false → (s.discards i → s.pending = none) → ∀ q ∈ (s.step now i).posts,
        q.text = (s.outgoing i).text ∧
          (s.outgoing i).heading = (some (toString (token.rid + 1)), some sid)

/-- The session has handed over nothing and is due, or its first request was the one with the next number. -/
def OnTime (sid : String) (token : Stream) (st : Settings) (alarm : Armed) (gs : List Stage)
    (t : Traffic) : Prop :=
  Due sid token st alarm t ∧ posted gs = [] ∨ ∃ rest, posted gs = opener sid token :: rest

theorem OnTime.step {alarm : Armed} {gs : List Stage} (h : OnTime sid token st alarm gs t)
    (hmax : 1 ≤ st.maxRequests) (halarm : alarm.alarm = .continuation token.rid)
    (hi : t.input? m = some i) (hc : i.isCall = false) (now : Nat) :
    OnTime sid token st alarm (gs ++ [⟨t.session, now, i⟩]) ((t.consume m).act now i) := by
  rw [OnTime, posted_concat]
  rcases h with ⟨hdue, hnone⟩ | ⟨rest, hrest⟩
  · rw [hnone, List.nil_append]
    rcases hdue.step hmax halarm hi hc now with hfirst | ⟨hposts, hdue'⟩
    · exact .inr ⟨[], hfirst⟩
    · exact .inl ⟨hdue', by simp [Stage.outcome, hposts]⟩
  · rw [hrest]
    exact .inr ⟨_, List.cons_append⟩

theorem onTime_of_clear (h : t.Clear sid) (hs : t.session.settings = some st) (hmax : 1 ≤ st.maxRequests)
    (hsid : token.sid = some sid) (hd : t.session.dispatching = t.opened.length) (now : Nat)
    {later : List (Nat × Move)} (hlater : ∀ x ∈ later, x.2.isCall = false) :
    let resumed := (now, .call (.resume token)) :: later
    OnTime sid token st (t.poll now token) (stages resumed t) (t.run resumed) := by
  have hposts : (t.session.resume now token).posts = [] := by
    simp [resume_of_idle h.outstanding h.pending]
  have hbase : OnTime sid token st (t.poll now token) [⟨t.session, now, .resume token⟩]
      (t.step now (.call (.resume token))) := by
    refine .inl ⟨due_resume h hs hsid hd now, ?_⟩
    simp [posted, Stage.outcome, Session.step, hposts]
  refine moves_induction (P := OnTime sid token st (t.poll now token)) (K := (·.isCall = false)) ?_ hlater hbase
  intro gs t' now' m i hP hm hi
  exact hP.step hmax rfl hi ((isCall_input? hi).trans hm) now'

theorem quiet_of_clear (h : t.Clear sid) (now : Nat) (later : List (Nat × Move)) :
    let resumed := (now, .call (.resume token)) :: later
    posted (stages resumed t) = [] → (t.run resumed).unanswered = [] ∧
      ∀ a ∈ (t.run resumed).armed, ∀ request, a.alarm ≠ .retry request (some sid) := by
  intro resumed
  show posted ([] ++ stages resumed t) = [] → _
  apply stages_induction (P := fun gs t => posted gs = [] → t.unanswered = [] ∧
    ∀ a ∈ t.armed, ∀ request, a.alarm ≠ .retry request (some sid))
  · intro gs t now m i hP hi hposted
    -- A request is repeated after a reply only, and there is nothing to reply to.
    rw [posted_concat, List.append_eq_nil_iff, List.map_eq_nil_iff] at hposted
    obtain ⟨hbefore, hposts⟩ := hposted
    obtain ⟨hunanswered, harmed⟩ := hP hbefore
    refine ⟨?_, fun a ha request halarm => ?_⟩
    · rw [List.eq_nil_iff_forall_not_mem]
      intro q hq
      have hposts : (t.session.step now i).posts = [] := hposts
      rw [act, session_consume, unanswered_deliver, hposts, List.map_nil, List.append_nil] at hq
      have hmem := mem_unanswered_consume hq
      rw [hunanswered] at hmem
      cases hmem
    · rcases retry_of_mem_armed hi ha halarm with ⟨b, hb, -, hretry⟩ | ⟨⟨q, hq, -⟩, -⟩
      · exact harmed b hb request hretry
      · rw [hunanswered] at hq
        cases hq
  · exact fun _ => ⟨h.unanswered, h.armed⟩

theorem first_of_clear (h : t.Clear sid) (hs : t.session.settings.isSome) (hsid : token.sid = some sid)
    (now : Nat) {later : List (Nat × Move)} (hl : (t.step now (.call (.resume token))).Lasts later)
    {now' : Nat} :
    let resumed := (now, .call (.resume token)) :: later
    let s := (t.run resumed).session
    posted (stages resumed t) = [] → (t.run resumed).input? m = some i → i.isResume = false →
      (s.discards i → s.pending = none) → ∀ q ∈ (s.step now' i).posts, q.text = (s.outgoing i).text ∧
        (s.outgoing i).heading = (some (toString (token.rid + 1)), some sid) := by
  intro resumed s hposted hi hresume hdiscards q hq
  obtain ⟨-, harmed⟩ := quiet_of_clear h now later hposted
  obtain ⟨⟨-, hnumbered, hsigned⟩, hset, hactive⟩ := resumed_of_lasts hs h.pending hsid hl
  rw [bodies_of_posted_nil hposted] at hnumbered hsigned
  have hdraft : s.draft.heading = (some (toString (token.rid + 1)), some sid) :=
    Prod.ext hnumbered.draft hsigned.draft
  have hretry : i.isRetry = false := by
    -- A request that is repeated would be one of another session, which does not go out.
    by_contra hretry
    obtain ⟨request, sid', rfl⟩ := Input.exists_of_isRetry (by simpa using hretry)
    obtain ⟨k, a, -, ha, halarm⟩ := fire_of_input? hi
    have hother : s.sid? ≠ sid' := by
      rintro rfl
      exact harmed a (List.mem_of_getElem? ha) request (halarm.trans (by rw [hsigned.named]))
    have hstream : s.stream.isSome := stream_isSome_of_sid? hsigned.named
    rw [Session.step, fire_retry_other (.inr hother) (fun _ => hstream)] at hq
    cases hq
  refine ⟨text_of_mem_posts hset hretry hq, ?_⟩
  have hbegins := not_begins_of_active hactive hresume
  cases hd : s.discards i with
  | false => rw [outgoing_of_not_discards hbegins hd, heading_edited, hdraft]
  | true =>
    have hcleared : s.cleared = s := by rw [cleared, ← hdiscards hd]
    rw [outgoing_of_discards hactive hd, hcleared, Body.heading_set (by decide) (by decide), hdraft]

/-- **With nothing left over** a session that is taken up goes on with the next number. -/
theorem revived_of_clear (h : t.Clear sid) (hs : t.session.settings = some st) (hmax : 1 ≤ st.maxRequests)
    (hsid : token.sid = some sid) (hd : t.session.dispatching = t.opened.length) (now : Nat) :
    Revived sid token now t := by
  refine ⟨poll_mem_armed h now, fun later hlater => ?_, fun later hl => ?_⟩
  · rcases onTime_of_clear h hs hmax hsid hd now hlater with ⟨hdue, hnone⟩ | hfirst
    · exact .inl ⟨hdue.draft.imp And.right And.right, hnone⟩
    · exact .inr hfirst
  · intro resumed s hposted now' m i
    exact first_of_clear h (by simp [hs]) hsid now hl hposted

end Traffic

end XmppBosh.Bosh
