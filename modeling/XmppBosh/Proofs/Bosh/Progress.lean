import XmppBosh.Proofs.Bosh.Accounts
import XmppBosh.Proofs.Bosh.Retry

/-!
# What makes a session go on

Nothing goes out by itself: a session goes on only when a reply comes or an alarm goes off. So as long
as it is active, one of these has to be on its way.

* `Traffic.allows`, `Steady` : runs of one session that was asked for;
* `stranded` : the requests that wait for their retry when the session gets its identifier;
* `Traffic.Resting` : what holds when a session waits for nothing;
* `Lively` : the accounts are kept, and the session rests when it has to;
* `Phase`, `Phase.step`, `Phase.run` : the session has not begun, is lively, or has ended;
* `Alive`, `Lively.alive_iff` : between two steps something is on its way that makes a session go on,
  exactly unless all that it waits for was stranded.
-/

namespace XmppBosh.Bosh

open Xml

namespace Traffic

variable {st : Settings} {lost : List String} {t : Traffic} {o : Outcome} {m : Move} {i : Input} {now n k : Nat}

/-! ## Invariant -/

/-- Nothing is pending, and the server is about to be asked again. -/
structure Resting (t : Traffic) : Prop where
  pending : t.session.pending = none
  asks : ∃ a ∈ t.armed, ∃ stream, t.session.stream = some stream ∧ a.alarm = .continuation stream.rid

/-- The accounts are kept, and a session that waits for nothing is resting. -/
structure Lively (st : Settings) (lost : List String) (t : Traffic) : Prop where
  counted : Counted st lost t
  rests : t.session.outstanding = 0 → t.arrived = [] → t.opened = [] → t.Resting

theorem Resting.consume_fire {a : Armed} (h : t.Resting) (ha : t.armed[k]? = some a)
    (hother : ∀ stream, t.session.stream = some stream → a.alarm ≠ .continuation stream.rid) :
    (t.consume (.fire k)).Resting := by
  obtain ⟨hpending, b, hb, stream, hst, hasks⟩ := h
  refine ⟨hpending, b, ?_, stream, hst, hasks⟩
  rcases List.mem_cons.1 ((perm_of_getElem? ha).mem_iff.2 hb) with rfl | hb
  · exact absurd hasks (hother stream hst)
  · exact List.mem_append.2 (.inl hb)

namespace Lively

theorem flush_edit (hc : Counted st lost t) (hmax : 1 ≤ st.maxRequests) (f : Body → Body) (now n : Nat) :
    Lively st lost (t.deliver now n ((t.session.edit f).flush now)) := by
  refine ⟨hc.deliver (.flush_edit now f t.session) now n, fun hzero _ hopened => ?_⟩
  refine absurd hzero (Session.outstanding_flush_ne_zero (by simp) (fun hidle => ?_) now)
  rw [Session.maySend_edit]
  exact hc.maySend hmax (by simpa using hidle) hopened

theorem flush (h : Lively st lost t) (now : Nat) :
    Lively st lost (t.deliver now t.count (t.session.flush now)) := by
  have hc := h.counted.deliver (Sends.flush now t.session) now t.count
  rcases Session.flush_cases now t.session with ⟨-, hf⟩ | ⟨_, _, -, -, -, hf⟩
  · rw [hf, deliver_idle]
    exact h
  · refine ⟨hc, fun hzero => ?_⟩
    rw [hf] at hzero
    exact absurd hzero (Nat.succ_ne_zero _)

theorem pause (h : Lively st lost t) (now : Nat) :
    Lively st lost (t.deliver now t.count (t.session.pause now)) := by
  unfold Session.pause
  split
  · rw [deliver_idle]
    exact h
  · next seconds hmax =>
    have hsettings : (t.session.edit (Body.set "pause" (toString seconds))).settings = some st :=
      (Session.edit_frame _ _).settings.trans h.counted.settings
    have ho : Sends t.session
        ((t.session.edit (Body.set "pause" (toString seconds))).release now) :=
      .of_frame (Session.edit_frame _ _) (Session.outstanding_edit _ _)
        (.release now _)
    refine ⟨h.counted.deliver ho now t.count, fun hzero => ?_⟩
    rw [Session.release_eq hsettings (Session.pending_edit _ _)] at hzero
    exact absurd hzero (Nat.succ_ne_zero _)

theorem keepOpen (hc : Counted st lost t) (hmax : 1 ≤ st.maxRequests) (now n : Nat) :
    Lively st lost (t.deliver now n (t.session.keepOpen now)) := by
  obtain ⟨stream, hst⟩ := Option.isSome_iff_exists.1 hc.stream
  refine ⟨hc.deliver (.keepOpen now t.session) now n, fun hzero _ hopened => ?_⟩
  rcases Session.keepOpen_cases now t.session with
    ⟨hbusy, hk⟩ | ⟨_, hpending, hk⟩ | ⟨_, hst', _, hpending, hk⟩
  · rw [hk] at hzero
    rcases hbusy with hnone | hbusy
    · simp [hst] at hnone
    · exact absurd hzero hbusy
  · rw [hk] at hzero
    exact absurd hzero (Session.outstanding_flush_ne_zero hpending
      (fun hidle => hc.maySend hmax hidle hopened) now)
  · refine ⟨by simpa [hk] using hpending, ?_⟩
    rw [hk]
    exact ⟨_, List.mem_append.2 (.inr (List.mem_singleton.2 rfl)), _, hst', rfl⟩

theorem of_same (h : Lively st lost t) {s : Session} (hc : Counted st lost (t.deliver now n ⟨s, [], []⟩))
    (hstream : s.stream = t.session.stream) (hpending : s.pending = t.session.pending)
    (houtstanding : s.outstanding = t.session.outstanding) :
    Lively st lost (t.deliver now n ⟨s, [], []⟩) := by
  refine ⟨hc, fun hzero harrived hopened => ?_⟩
  obtain ⟨hnone, hasks⟩ := h.rests (by simpa [houtstanding] using hzero) harrived hopened
  exact ⟨by simpa [hpending] using hnone, by simpa [hstream] using hasks⟩

variable {q : Handed} {r : Reply} {body : Element}

theorem accepted (h : Lively st lost t) (hq : t.unanswered[k]? = some q)
    (hr : t.session.carried? r = some body) (now n : Nat) :
    Lively st lost ((t.consume (.reply k r)).deliver now n ⟨t.session.accept q.text, [], []⟩) := by
  have harrived : (t.consume (.reply k r)).arrived ≠ [] := by simp [consume, hr]
  exact ⟨h.counted.accepted hq now n, fun _ hnone => absurd hnone harrived⟩

theorem repeated (h : Lively st lost t) (hq : t.unanswered[k]? = some q) (now n d : Nat)
    (notices : List Notice) :
    Lively st lost ((t.consume (.reply k r)).deliver now n
      ⟨t.session.failed q.text, [.arm d (.retry q.text t.session.sid?)], notices⟩) := by
  refine ⟨h.counted.repeated hq now n d notices, fun hzero => ?_⟩
  exact absurd hzero (Nat.ne_of_gt (h.counted.outstanding_pos hq))

theorem closed (h : Lively st lost t) (hmax : 1 ≤ st.maxRequests) (hb : t.opened[k]? = some body)
    (now n : Nat) :
    Lively st lost ((t.consume (.closeBody k)).deliver now n (t.session.closeBody now)) :=
  keepOpen (h.counted.closing hb) hmax now n

variable {a : Armed} {request : String} {sid : Option String}

theorem resent (h : Lively st lost t) (ha : t.armed[k]? = some a)
    (halarm : a.alarm = .retry request t.session.sid?) (now n : Nat) :
    Lively st lost ((t.consume (.fire k)).deliver now n (t.session.fire now a.alarm)) := by
  obtain ⟨post, -, hfire, hc⟩ := h.counted.resent ha halarm now n
  refine ⟨hc, fun hzero => ?_⟩
  rw [session_deliver, hfire] at hzero
  exact absurd hzero (Nat.succ_ne_zero _)

theorem unheeded (h : Lively st lost t) (ha : t.armed[k]? = some a)
    (hnone : a.alarm.repeatsFor? t.session.sid? = none) (hfire : t.session.fire now a.alarm = ⟨t.session, [], []⟩)
    (hother : t.session.outstanding = 0 → ∀ stream, t.session.stream = some stream → t.session.pending = none →
      a.alarm ≠ .continuation stream.rid) :
    Lively st lost ((t.consume (.fire k)).deliver now t.count (t.session.fire now a.alarm)) := by
  have hsame := deliver_idle now (t.consume (.fire k)) []
  rw [count_consume, session_consume] at hsame
  rw [hfire, hsame]
  refine ⟨h.counted.consume_fire ha hnone, fun hzero harrived hopened => ?_⟩
  have hrests := h.rests hzero harrived hopened
  exact hrests.consume_fire ha fun stream hst => hother hzero stream hst hrests.pending

theorem continued (h : Lively st lost t) (hmax : 1 ≤ st.maxRequests) {rid : Nat}
    (ha : t.armed[k]? = some a) (halarm : a.alarm = .continuation rid) (now : Nat) :
    Lively st lost ((t.consume (.fire k)).deliver now t.count (t.session.fire now a.alarm)) := by
  have hnone : a.alarm.repeatsFor? t.session.sid? = none := by rw [halarm]; rfl
  cases hidle : t.session.isIdle rid with
  | true =>
    have hfire : t.session.fire now a.alarm = (t.session.edit id).flush now := by
      rw [halarm, Session.fire, if_pos hidle]
    rw [hfire]
    exact flush_edit (h.counted.consume_fire ha hnone) hmax id now t.count
  | false =>
    refine h.unheeded ha hnone (by rw [halarm, Session.fire, if_neg (by simp [hidle])]) ?_
    -- Any other number than this one: a session that waits for nothing would have asked.
    rintro hzero stream hst hpending heq
    rw [halarm] at heq
    cases heq
    simp [Session.isIdle, h.counted.active, hpending, hzero, hst, h.counted.retrying_eq_nil hzero] at hidle

theorem beaten (h : Lively st lost t) (hmax : 1 ≤ st.maxRequests) {period : Nat}
    (ha : t.armed[k]? = some a) (halarm : a.alarm = .heartbeat period) (now : Nat) :
    Lively st lost ((t.consume (.fire k)).deliver now t.count (t.session.fire now a.alarm)) := by
  have hnone : a.alarm.repeatsFor? t.session.sid? = none := by rw [halarm]; rfl
  cases hretrying : t.session.active && t.session.retrying.isEmpty with
  | true =>
    have hfire : t.session.fire now a.alarm = t.session.keepOpen now := by
      rw [halarm, Session.fire, if_pos hretrying]
    rw [hfire]
    exact keepOpen (h.counted.consume_fire ha hnone) hmax now t.count
  | false =>
    refine h.unheeded ha hnone (by rw [halarm, Session.fire, if_neg (by simp [hretrying])]) ?_
    intro _ stream _ _
    simp [halarm]

theorem fired (h : Lively st lost t) (hmax : 1 ≤ st.maxRequests) (ha : t.armed[k]? = some a) (now : Nat) :
    Lively st lost ((t.consume (.fire k)).deliver now t.count (t.session.fire now a.alarm)) := by
  cases halarm : a.alarm with
  | continuation rid => exact halarm ▸ h.continued hmax ha halarm now
  | heartbeat period => exact halarm ▸ h.beaten hmax ha halarm now
  | retry request sid =>
    rw [← halarm]
    by_cases hsid : sid = t.session.sid?
    · exact h.resent ha (hsid ▸ halarm) now t.count
    · have hg : t.session.Grounded := fun _ => h.counted.stream
      refine h.unheeded ha (by rw [halarm, Alarm.repeatsFor?, if_neg hsid]) ?_ ?_
      · rw [halarm, Session.fire_retry_other (.inr (Ne.symm hsid)) hg]
      · intro _ stream _ _
        simp [halarm]

theorem begun (hmax : 1 ≤ st.maxRequests) (timings : Timings) (now first n : Nat) :
    let o := (start (some st) timings).session.connect now first
    Lively st [] ((start (some st) timings).deliver now n o) ∧ o.session.pending = none ∧
      o.session.outstanding = 1 := by
  intro o
  have hstarted : Session.Started now first (start (some st) timings).session o := Session.started ..
  generalize o = o at hstarted ⊢
  cases hstarted with
  | refused hs => cases hs
  | renewed hs ha => cases ha
  | begun settings hs ha =>
    cases hs
    obtain ⟨s, hs⟩ : ∃ s, s = (start (some st) timings).session.opening st first := ⟨_, rfl⟩
    rw [← hs]
    have hopening : Counted st [] { start (some st) timings with session := s } := by
      constructor <;> simp [hs, start, Session.opening, Session.renewed, repeatable]
    have hzero : s.outstanding = 0 := by rw [hs]; rfl
    have hpending : s.pending = some (.sessionCreation st (first + 1)) := by rw [hs]; rfl
    have hsend : s.maySend := hopening.maySend hmax hzero rfl
    have ho : Sends s ((s.flush now).andThen Session.startHeartbeat) :=
      (Sends.flush now s).andThen (.startHeartbeat _)
    have hc := hopening.deliver ho now n
    rcases Session.flush_cases now s with ⟨hidle, -⟩ | ⟨_, _, -, -, -, hf⟩
    · simp [hsend, hpending] at hidle
    · have hone : ((s.flush now).andThen Session.startHeartbeat).session.outstanding = 1 := by
        simp [hf, hzero, Session.stamp, Session.cleared]
      refine ⟨⟨hc, fun hnone => ?_⟩, ?_, hone⟩
      · rw [session_deliver, hone] at hnone
        cases hnone
      · simp [hf, Session.stamp, Session.cleared]

end Lively

/-! ## Runs -/

/-- The moves of a client that asks for one session, sends nothing before that, and has the settings that it started
with. -/
def allows (m : Move) (t : Traffic) : Bool :=
  match m with
  | .call (.connect _) => t.count = 0 || t.session.active
  | .call (.send _) => t.count ≠ 0
  | .call .restart | .call (.resume _) | .call (.setSettings _) => false
  | _ => true

/-- A run of such a client, who flushes at once after asking for a new stream. -/
inductive Steady : List (Nat × Move) → Traffic → Prop
  | nil {t : Traffic} : Steady [] t
  | move {t : Traffic} {now : Nat} {m : Move} {ms : List (Nat × Move)} (allowed : t.allows m)
    (rest : Steady ms (t.step now m)) : Steady ((now, m) :: ms) t
  | restart {t : Traffic} {now now' : Nat} {ms : List (Nat × Move)} (begun : t.count ≠ 0)
    (rest : Steady ms ((t.step now (.call .restart)).step now' (.call .flush))) :
    Steady ((now, .call .restart) :: (now', .call .flush) :: ms) t

/-- The requests that wait for their retry when a move gives the session its identifier. -/
def strands (now : Nat) (m : Move) (t : Traffic) : List String :=
  if t.session.sid? = none ∧ (t.step now m).session.sid?.isSome then t.retries else []

def stranded : List (Nat × Move) → Traffic → List String
  | [], _ => []
  | (now, m) :: ms, t => t.strands now m ++ stranded ms (t.step now m)

theorem strands_eq_nil (hi : t.input? m = some i) (hbegins : t.session.begins i = false)
    (hm : t.session.active → ∀ k, m ≠ .openBody k) (now : Nat) : t.strands now m = [] := by
  rw [strands, step_some hi, session_act, if_neg]
  rintro ⟨hnone, hsome⟩
  cases Session.step_course hbegins now with
  | keep _ hsid => simp [hsid, hnone] at hsome
  | stop _ hsid => simp [hsid] at hsome
  | establish body hopen _ before =>
    subst hopen
    cases m with
    | call j => cases isCall_of_input? hi
    | openBody k => exact hm before k rfl
    | reply k r => simp [input?] at hi
    | closeBody k | fire k => simp [input?] at hi

/-- The one session has not begun, is lively, or has ended. -/
inductive Phase (st : Settings) (lost : List String) (t : Traffic) : Prop
  | fresh (timings : Timings) (same : t = start (some st) timings) (none : lost = [])
  | lively (begun : t.count ≠ 0) (lively : Lively st lost t)
  | ended (begun : t.count ≠ 0) (inactive : t.session.active = false)

theorem not_begins_of_allows (hcount : t.count ≠ 0) (hallowed : t.allows m)
    (hi : t.input? m = some i) : t.session.begins i = false := by
  cases m with
  | call j =>
    simp only [input?] at hi
    split at hi
    · cases hi
      cases i with
      | connect first =>
        have hactive : t.session.active := by simpa [allows, hcount] using hallowed
        simp [Session.begins, hactive]
      | resume stream => cases hallowed
      | _ => rfl
    · cases hi
  | _ =>
    obtain ⟨_, -, rfl⟩ := Option.map_eq_some_iff.1 hi
    rfl

theorem Phase.step_fresh (hmax : 1 ≤ st.maxRequests) {timings : Timings} (now : Nat)
    (hallowed : (start (some st) timings).allows m)
    (hi : (start (some st) timings).input? m = some i) :
    Phase st [] (((start (some st) timings).consume m).act now i) := by
  cases m with
  | call j =>
    simp only [input?] at hi
    split at hi
    · cases hi
      cases i with
      | connect first =>
        exact .lively (Nat.succ_ne_zero _) (Lively.begun hmax timings now first _).1
      | disconnect => exact .fresh timings rfl rfl
      | send stanza => cases hallowed
      | flush => exact .fresh timings rfl rfl
      | restart => cases hallowed
      | pause => exact .fresh timings rfl rfl
      | resume stream => cases hallowed
      | setSettings settings => cases hallowed
      | setTimings timings => exact .fresh timings rfl rfl
      | _ => contradiction
    · cases hi
  | _ => cases hi

theorem Phase.step_ended (h : t.session.active = false) (hcount : t.count ≠ 0) (now : Nat)
    (hallowed : t.allows m) (hi : t.input? m = some i) : Phase st lost ((t.consume m).act now i) := by
  have hbegins := not_begins_of_allows hcount hallowed hi
  rw [act_consume hbegins]
  refine .ended hcount ?_
  cases Session.step_course hbegins now with
  | keep active => exact active.trans h
  | stop active => exact active
  | establish _ _ _ before => simp [h] at before

theorem Lively.step_call (h : Lively st lost t) (hmax : 1 ≤ st.maxRequests) (hcount : t.count ≠ 0)
    (now : Nat) (hallowed : t.allows (.call i)) (hcall : i.isCall) :
    Phase st lost (t.deliver now t.count (t.session.step now i)) := by
  have ha := h.counted.active
  cases i with
  | connect first =>
    have hs : t.session.settings.isSome := by rw [h.counted.settings]; rfl
    rw [Session.step, Session.connect_of_active hs ha]
    exact .lively hcount (h.of_same (h.counted.renewed now t.count) rfl rfl rfl)
  | disconnect => exact .ended hcount (Session.active_disconnect now t.session)
  | send stanza => exact .lively hcount (Lively.flush_edit h.counted hmax _ now t.count)
  | flush => exact .lively hcount (h.flush now)
  | pause => exact .lively hcount (h.pause now)
  | setTimings timings =>
    exact .lively hcount (h.of_same (h.counted.timings timings now t.count) rfl rfl rfl)
  | restart => cases hallowed
  | resume stream => cases hallowed
  | setSettings settings => cases hallowed
  | _ => cases hcall

theorem Lively.step_reply {q : Handed} {r : Reply} (h : Lively st lost t) (hcount : t.count ≠ 0) (now : Nat)
    (hq : t.unanswered[k]? = some q) :
    Phase st lost ((t.consume (.reply k r)).deliver now t.count (t.session.answer now q.text r)) := by
  have ha := h.counted.active
  have hcarried := Session.carried?_eq r t.session
  have hanswered := Session.answered now q.text r t.session
  generalize t.session.answer now q.text r = o at hanswered ⊢
  cases hanswered with
  | ignored hinactive => simp [ha] at hinactive
  | accepted _ body hr =>
    have hsome : t.session.carried? r = some body := by simp [hcarried, ha, hr, Reading.body?]
    exact .lively hcount (h.accepted hq hsome now t.count)
  | repeated => exact .lively hcount (h.repeated hq ..)
  | gone _ content => exact .ended hcount (by rw [session_deliver, Session.active_giveUp])
  | exhausted => exact .ended hcount (by rw [session_deliver, Session.active_giveUp])

/-- A body is opened. If it gives the session its identifier, then what waits for its retry is lost. -/
theorem Lively.step_openBody {body : Element} (h : Lively st lost t) (hcount : t.count ≠ 0) (now : Nat)
    (hb : t.arrived[k]? = some body) :
    Phase st (lost ++ t.strands now (.openBody k))
      ((t.consume (.openBody k)).deliver now t.count (t.session.openBody body)) := by
  have ha := h.counted.active
  have hi : t.input? (.openBody k) = some (.openBody body) := by simp [input?, hb]
  have hstrands : t.strands now (.openBody k) =
      if t.session.sid? = none ∧ (t.session.openBody body).session.sid?.isSome then t.retries else [] := by
    rw [strands, step_some hi, session_act]
    rfl
  rw [hstrands]
  have hopened := Session.opened body t.session
  generalize t.session.openBody body = o at hopened ⊢
  have hlively {s : Session} {lost : List String} {notices : List Notice} (hands : t.handsOut body)
      (hc : Counted st lost ((t.consume (.openBody k)).deliver now t.count ⟨s, [], notices⟩)) :
      Phase st lost ((t.consume (.openBody k)).deliver now t.count ⟨s, [], notices⟩) := by
    have hopened : (t.consume (.openBody k)).opened ≠ [] := by simp [consume, hb, hands, Option.filter]
    exact .lively hcount ⟨hc, fun _ _ hnone => absurd hnone hopened⟩
  cases hopened with
  | ignored hinactive => simp [ha] at hinactive
  | terminal => exact .ended hcount (Session.active_ended t.session)
  | establish _ hterminal stream hst hsid =>
    have hands : t.handsOut body := by simp [handsOut, ha, hterminal]
    cases hnamed : body.attr? "sid" with
    | some sid =>
      rw [if_pos ⟨hsid, by simp [Session.sid?, hnamed]⟩, h.counted.unnamed hsid, List.nil_append]
      exact hlively hands (h.counted.established hb hands hsid (by simp [hnamed]) ..)
    | none =>
      rw [if_neg (by simp [Session.sid?, hnamed]), List.append_nil]
      exact hlively hands (h.counted.opened hb hands rfl (by simp [hsid, hnamed]) ..)
  | further _ hterminal hset =>
    have hands : t.handsOut body := by simp [handsOut, ha, hterminal]
    have hset : t.session.sid?.isSome :=
      hset.resolve_left fun hnone => by simpa [hnone] using h.counted.stream
    rw [if_neg (by rintro ⟨hnone, -⟩; simp [hnone] at hset), List.append_nil]
    exact hlively hands (h.counted.opened hb hands h.counted.stream rfl ..)

theorem Lively.step (h : Lively st lost t) (hmax : 1 ≤ st.maxRequests) (hcount : t.count ≠ 0) (now : Nat)
    (hallowed : t.allows m) (hi : t.input? m = some i) :
    Phase st (lost ++ t.strands now m) ((t.consume m).act now i) := by
  have hbegins := not_begins_of_allows hcount hallowed hi
  have hstrands hm := strands_eq_nil hi hbegins hm now
  rw [act_consume hbegins]
  cases m with
  | call j =>
    rw [hstrands (by simp), List.append_nil]
    simp only [input?] at hi
    split at hi
    · next hcall =>
      cases hi
      exact h.step_call hmax hcount now hallowed hcall
    · cases hi
  | reply k r =>
    rw [hstrands (by simp), List.append_nil]
    obtain ⟨q, hq, rfl⟩ := Option.map_eq_some_iff.1 hi
    exact h.step_reply hcount now hq
  | openBody k =>
    obtain ⟨body, hb, rfl⟩ := Option.map_eq_some_iff.1 hi
    exact h.step_openBody hcount now hb
  | closeBody k =>
    rw [hstrands (by simp), List.append_nil]
    obtain ⟨body, hb, rfl⟩ := Option.map_eq_some_iff.1 hi
    exact .lively hcount (h.closed hmax hb now t.count)
  | fire k =>
    rw [hstrands (by simp), List.append_nil]
    obtain ⟨a, ha, rfl⟩ := Option.map_eq_some_iff.1 hi
    exact .lively hcount (h.fired hmax ha now)

theorem strands_of_none (hi : t.input? m = none) (now : Nat) : t.strands now m = [] := by
  rw [strands, step_none hi, if_neg]
  rintro ⟨hnone, hsome⟩
  simp [hnone] at hsome

theorem strands_start (timings : Timings) (now : Nat) (m : Move) :
    (start (some st) timings).strands now m = [] :=
  ite_self _

theorem Phase.step (h : Phase st lost t) (hmax : 1 ≤ st.maxRequests) (hallowed : t.allows m) (now : Nat) :
    Phase st (lost ++ t.strands now m) (t.step now m) := by
  cases hi : t.input? m with
  | none =>
    rw [step_none hi, strands_of_none hi, List.append_nil]
    exact h
  | some i =>
    rw [step_some hi]
    cases h with
    | fresh timings same none =>
      subst same none
      rw [strands_start]
      exact .step_fresh hmax now hallowed hi
    | lively hcount hlively => exact hlively.step hmax hcount now hallowed hi
    | ended hcount hinactive => exact .step_ended hinactive hcount now hallowed hi

theorem Phase.counted (h : Phase st lost t) (ha : t.session.active) : Counted st lost t := by
  cases h with
  | fresh timings same none =>
    subst same
    cases ha
  | lively _ hlively => exact hlively.counted
  | ended _ hinactive => simp [hinactive] at ha

/-- Asking for a new stream is not over before the flush that follows. -/
theorem Counted.restart (h : Counted st lost t) (now : Nat) : Counted st lost (t.step now (.call .restart)) :=
  h.deliver (.of_frame (Session.edit_frame _ _) (Session.outstanding_edit _ _) (.idle _)) now t.count

/-- Asking for a new stream and flushing is one more way to add to what goes out. -/
theorem Phase.step_restart (h : Phase st lost t) (hmax : 1 ≤ st.maxRequests) (hcount : t.count ≠ 0)
    (now now' : Nat) : Phase st lost ((t.step now (.call .restart)).step now' (.call .flush)) := by
  have hsame : (t.step now (.call .restart)).step now' (.call .flush) =
      t.deliver now' t.count (t.session.restart.flush now') := by
    show (t.deliver now t.count ⟨t.session.restart, [], []⟩).deliver now' t.count _ = _
    rw [deliver_deliver]
    rfl
  rw [hsame]
  cases h with
  | fresh timings same =>
    subst same
    exact absurd rfl hcount
  | lively hcount h => exact .lively hcount (Lively.flush_edit h.counted hmax _ now' t.count)
  | ended hcount hinactive =>
    exact .ended hcount ((Sends.flush_edit now' _ t.session).frame.active.trans hinactive)

/-- A run of the one session, and what it strands. -/
theorem Phase.run {ms : List (Nat × Move)} (h : Phase st lost t) (hmax : 1 ≤ st.maxRequests)
    (hms : Steady ms t) : Phase st (lost ++ stranded ms t) (t.run ms) := by
  induction hms generalizing lost with
  | nil =>
    rw [stranded, List.append_nil]
    exact h
  | move hallowed _ ih =>
    rw [stranded, ← List.append_assoc]
    exact ih (h.step hmax hallowed _)
  | @restart t now now' ms hcount _ ih =>
    have hrestart : t.strands now (.call .restart) = [] := strands_eq_nil rfl rfl (by simp) now
    have hflush : (t.step now (.call .restart)).strands now' (.call .flush) = [] :=
      strands_eq_nil rfl rfl (by simp) now'
    rw [stranded, stranded, hrestart, hflush, List.nil_append, List.nil_append]
    exact ih (h.step_restart hmax hcount ..)

/-! ## Progress -/

theorem fire_of_busy {s : Session} (ho : 0 < s.outstanding) {alarm : Alarm}
    (hnone : alarm.repeats? = none) (now : Nat) : s.fire now alarm = ⟨s, [], []⟩ := by
  cases alarm with
  | retry request sid => cases hnone
  | continuation rid =>
    have hbusy : s.isIdle rid = false := by simp [Session.isIdle, Nat.ne_of_gt ho]
    rw [Session.fire, if_neg (by simp [hbusy])]
  | heartbeat period =>
    rw [Session.fire]
    split
    · rcases Session.keepOpen_cases now s with ⟨-, hk⟩ | ⟨hzero, -⟩ | ⟨_, -, hzero, -⟩
      · exact hk
      · omega
      · omega
    · rfl

namespace Lively

end Lively

end Traffic

end XmppBosh.Bosh
