import XmppBosh.Proofs.Bosh.Gate

/-!
# How long errors are put up with

Every error is counted, whichever request went wrong, and the count goes on until the client asks for a
session again. A request waits longer for its retry the more errors there have been, up to a limit that the
server may set; with the error that would have one wait longer the session ends.

* `Session.budget` : the limit; `Session.errs` : a reply with which a request goes wrong;
* `errors_step` : these are counted, and nothing else is;
* `Met` : what the n-th error leads to, and `met` : each leads to this, and to nothing else;
* `Traffic.errors_of_connect` : none are counted when the client has asked for a session;
* `mistakes`, `allowance` : how many errors there have been, and the largest limit that one has met;
* `Watch` : the retries that are set in a part of a run, and how often they hand a request over; `planned` :
  how many are set; `watch_le` : each hands it over once at most;
* `retried_within_budget` : all of this about the errors between one call for a session and the next.
-/

namespace XmppBosh.Bosh

def Input.isSetTimings : Input → Bool
  | .setTimings _ => true
  | _ => false

namespace Session

variable {s : Session} {i : Input} {now : Nat}

/-! ## Counting errors -/

/-- How long a retry may be put off: as long as the session may be silent, if the server has announced
that, and else as long as the client itself sees fit. -/
def budget (s : Session) : Nat :=
  match (s.stream.bind Stream.inactivity).filter (0 < ·) with
  | some seconds => seconds * s.timings.second
  | none => s.timings.errorTimeout

theorem errorTimeout_eq_budget (s : Session) : s.errorTimeout = s.budget := by
  unfold errorTimeout budget
  cases s.stream with
  | none => rfl
  | some stream =>
    cases h : stream.inactivity with
    | none => simp [Stream.errorTimeout, h]
    | some seconds => by_cases hpos : 0 < seconds <;> simp [Stream.errorTimeout, h, hpos, Option.filter]

/-- Whether an input is a reply with which a request goes wrong, to a session that looks at it. -/
def errs (i : Input) (s : Session) : Bool :=
  match i with
  | .answer _ r => s.active && r.reading.isBad
  | _ => false

theorem disconnect_counts (now : Nat) (s : Session) :
    (s.disconnect now).session.errors = s.errors ∧ (s.disconnect now).session.timings = s.timings := by
  simp only [disconnect_eq, ended]
  split
  · have h := (farewell_frame s).trans (release_frame now _)
    exact ⟨h.errors, h.timings⟩
  · exact ⟨rfl, rfl⟩

theorem giveUp_counts (now : Nat) (reason : String) (s : Session) :
    (s.giveUp now reason).session.errors = s.errors ∧
      (s.giveUp now reason).session.timings = s.timings :=
  disconnect_counts now { s with outstanding := s.outstanding - 1 }

theorem errors_of_frame {t : Session} (he : s.errs i = false) (h : Frame s t) :
    t.errors = s.errors + (s.errs i).toNat ∧ (i.isSetTimings = false → t.timings = s.timings) := by
  rw [he]
  exact ⟨h.errors, fun _ => h.timings⟩

/-- **A step counts an error** when a request goes wrong, and leaves the timings alone. -/
theorem errors_step (hc : i.isConnect = false) (now : Nat) :
    (s.step now i).session.errors = s.errors + (s.errs i).toNat ∧
      (i.isSetTimings = false → (s.step now i).session.timings = s.timings) := by
  cases i with
  | connect start => cases hc
  | setTimings timings => exact ⟨rfl, fun h => by cases h⟩
  | disconnect =>
    obtain ⟨herrors, htimings⟩ := disconnect_counts now s
    exact ⟨herrors, fun _ => htimings⟩
  | send stanza => exact errors_of_frame rfl ((edit_frame _ s).trans (flush_frame now _))
  | flush => exact errors_of_frame rfl (flush_frame now s)
  | restart => exact errors_of_frame rfl (edit_frame _ s)
  | pause => exact errors_of_frame rfl (pause_frame now s)
  | setSettings settings => exact ⟨rfl, fun _ => rfl⟩
  | resume stream =>
    have h := (keepOpen_frame now { s with active := true, stream := some stream }).trans
      (startHeartbeat_frame _)
    exact ⟨h.errors, fun _ => h.timings⟩
  | answer request r =>
    have ha := answered now request r s
    simp only [step]
    generalize s.answer now request r = o at ha ⊢
    cases ha with
    | ignored ha => simp [errs, ha]
    | accepted ha body hr => simp [errs, ha, hr, Reading.isBad, accept]
    | repeated ha reason hr => simp [errs, ha, hr, Reading.isBad, failed]
    | gone ha content hr =>
      obtain ⟨herrors, htimings⟩ := giveUp_counts now
        ("404 Connection Error (session removed ?!) : " ++ content) s
      simp [errs, hr, Reading.isBad, herrors, htimings]
    | exhausted ha reason hr =>
      obtain ⟨herrors, htimings⟩ := giveUp_counts now ("Connection error: " ++ reason) (s.failed request)
      refine ⟨herrors.trans ?_, fun _ => htimings⟩
      simp [errs, ha, hr, Reading.isBad, failed]
  | openBody body =>
    have ho := opened body s
    simp only [step]
    generalize s.openBody body = o at ho ⊢
    cases ho <;> exact ⟨rfl, fun _ => rfl⟩
  | closeBody =>
    have h := keepOpen_frame now { s with dispatching := s.dispatching - 1 }
    exact ⟨h.errors, fun _ => h.timings⟩
  | fire alarm => exact errors_of_frame rfl (fire_frame now alarm s)

/-- What the n-th error leads to. -/
inductive Met (n delay : Nat) (i : Input) (s : Session) (o : Outcome) : Prop
  /-- The request is to be repeated. -/
  | retried (within : n * delay ≤ s.budget) (request : String) (r : Reply) (input : i = .answer request r)
    (notices : o.notices = [.waitingForRetry n delay])
    (effects : o.effects = [.arm delay (.retry request s.sid?)]) (active : o.session.active)
  /-- The session ends. -/
  | ended (beyond : s.budget < n * delay) (reason : String)
    (notices : o.notices = [.error ("Connection error: " ++ reason), .disconnected "logged out"])
    (alarms : o.alarms = []) (inactive : o.session.active = false)

/-- **An error is met** according to how many there have been. -/
theorem met (he : s.errs i) (now : Nat) :
    Met (s.errors + 1) s.timings.retryDelay i s (s.step now i) := by
  cases i with
  | answer request r =>
    have ha := answered now request r s
    simp only [step]
    generalize s.answer now request r = o at ha ⊢
    cases ha with
    | ignored ha => simp [errs, ha] at he
    | accepted _ _ hr | gone _ _ hr => simp [errs, hr, Reading.isBad] at he
    | repeated ha _ _ hx =>
      refine .retried ?_ request r rfl rfl rfl ha
      rw [isExhausted, decide_eq_false_iff_not, errorTimeout_eq_budget] at hx
      rw [Nat.mul_comm]
      omega
    | exhausted ha reason _ hx =>
      refine .ended ?_ reason (notices_giveUp ..) (alarms_giveUp ..) (active_giveUp ..)
      rw [isExhausted, decide_eq_true_eq, errorTimeout_eq_budget] at hx
      rw [Nat.mul_comm]
      omega
  | _ => cases he

/-- Only an error is told that there will be a retry. -/
theorem errs_of_waiting {n delay : Nat} (h : .waitingForRetry n delay ∈ (s.step now i).notices) :
    s.errs i := by
  cases i with
  | answer request r =>
    have ha := answered now request r s
    simp only [step] at h
    generalize s.answer now request r = o at ha h
    cases ha with
    | ignored | accepted => simp at h
    | repeated ha _ hr => simp [errs, ha, hr, Reading.isBad]
    | gone | exhausted => simp at h
  | connect start =>
    have hc := started now start s
    simp only [step] at h
    generalize s.connect now start = o at hc h
    cases hc <;> simp at h
  | openBody body =>
    have ho := opened body s
    simp only [step] at h
    generalize s.openBody body = o at ho h
    cases ho <;> simp at h
  | fire alarm =>
    cases alarm <;> simp only [step, fire] at h <;> split at h <;> simp at h
  | _ => simp [step, send, resume, closeBody] at h

/-- A step sets a retry with an error only, and one at most. -/
theorem countP_alarms_le (now : Nat) (i : Input) (s : Session) :
    (s.step now i).alarms.countP (·.2.repeats?.isSome) ≤ (s.errs i).toNat := by
  cases he : s.errs i with
  | true =>
    cases met he now with
    | retried _ request _ _ _ effects => simp [Outcome.alarms, effects, Alarm.repeats?]
    | ended _ _ _ alarms => simp [alarms]
  | false =>
    rw [Bool.toNat_false, Nat.le_zero, List.countP_eq_zero]
    rintro ⟨d, alarm⟩ halarm
    cases alarm with
    | retry request sid =>
      obtain ⟨r, rfl, hactive, -, hfailed⟩ := retry_of_mem_alarms halarm
      have herrors := (errors_step (s := s) (i := .answer request r) rfl now).1
      simp [hfailed, failed, he] at herrors
    | continuation | heartbeat => simp [Alarm.repeats?]

end Session

def Traffic.Stage.errs (g : Traffic.Stage) : Bool := g.before.errs g.input

namespace Traffic

open Session

variable {gs : List Stage} {g : Stage} {t : Traffic} {m : Move} {i : Input} {now d : Nat}

/-! ## Asking for a session -/

/-- Without settings nothing has gone wrong, as nothing has been handed over. -/
def Idle (t : Traffic) : Prop := t.session.settings = none → t.unanswered = [] ∧ t.session.errors = 0

theorem Idle.act (h : t.Idle) (hi : t.input? m = some i) (now : Nat) : ((t.consume m).act now i).Idle := by
  intro hs
  rw [session_act] at hs ⊢
  have hbefore : t.session.settings = none := by
    rw [← Option.not_isSome_iff_eq_none] at hs ⊢
    exact mt (step_retains now i t.session).settings hs
  obtain ⟨hnone, hzero⟩ := h hbefore
  have hunanswered : (t.consume m).unanswered = [] :=
    List.eq_nil_iff_forall_not_mem.2 fun q hq => by simpa [hnone] using mem_unanswered_consume hq
  refine ⟨by simp [Traffic.act, hunanswered, posts_of_no_settings hbefore], ?_⟩
  cases hc : i.isConnect with
  | true =>
    cases i with
    | connect start =>
      have hc := started now start t.session
      simp only [Session.step]
      generalize t.session.connect now start = o at hc ⊢
      cases hc with
      | refused => exact hzero
      | renewed => rfl
      | begun _ hset => simp [hbefore] at hset
    | _ => cases hc
  | false =>
    have he : t.session.errs i = false := by
      cases i with
      | answer request r =>
        obtain ⟨k, q, -, hq, -⟩ := reply_of_input? hi
        simp [hnone] at hq
      | _ => rfl
    rw [(errors_step hc now).1, he, hzero]
    rfl

/-- **No errors are counted** when the client has asked for a session, whether there was one or not. -/
theorem errors_of_connect (settings : Option Settings) (timings : Timings) (ms : List (Nat × Move))
    (now first : Nat) :
    ((start settings timings).run (ms ++ [(now, .call (.connect first))])).session.errors = 0 := by
  have hidle : ((start settings timings).run ms).Idle :=
    run_induction (P := Idle) (fun t now m i h hi => h.act hi now) (fun _ => ⟨rfl, rfl⟩) ms
  obtain ⟨t, ht⟩ : ∃ t, t = (start settings timings).run ms := ⟨_, rfl⟩
  rw [run_append, run_cons, run_nil, ← ht, step_some (i := .connect first) rfl, session_act]
  rw [← ht] at hidle
  have hc := started now first t.session
  simp only [Session.step]
  generalize t.session.connect now first = o at hc ⊢
  cases hc with
  | refused hs => exact (hidle hs).2
  | renewed => rfl
  | begun st =>
    exact ((flush_frame now (t.session.opening st first)).trans (startHeartbeat_frame _)).errors

/-! ## Errors in a history -/

def mistakes (gs : List Stage) : Nat := gs.countP Stage.errs

/-- The largest limit that an error in a history has met. -/
def allowance (gs : List Stage) : Nat := ((gs.filter Stage.errs).map (·.before.budget)).foldl max 0

def planned (gs : List Stage) : Nat := (gs.flatMap (·.outcome.alarms)).countP (·.2.repeats?.isSome)

/-- An error has ended the session, and none has begun since. -/
def GivenUp (gs : List Stage) : Prop :=
  Since (fun g => g.errs ∧ g.outcome.session.active = false) (fun g => g.before.begins g.input = false) gs

theorem mistakes_concat (gs : List Stage) (g : Stage) :
    mistakes (gs ++ [g]) = mistakes gs + g.errs.toNat := by
  rw [mistakes, List.countP_append, List.countP_singleton]
  cases g.errs <;> rfl

theorem allowance_concat (gs : List Stage) (g : Stage) :
    allowance (gs ++ [g]) = if g.errs then max (allowance gs) g.before.budget else allowance gs := by
  cases he : g.errs <;> simp [allowance, List.filter_append, he]

theorem planned_concat (gs : List Stage) (g : Stage) :
    planned (gs ++ [g]) = planned gs + g.outcome.alarms.countP (·.2.repeats?.isSome) := by
  simp [planned]

/-- What a history without a call for a session has come to, in which the first retry waits for this
long. -/
structure Within (delay : Nat) (gs : List Stage) (s : Session) : Prop where
  timings : s.timings.retryDelay = delay
  errors : s.errors = mistakes gs
  met : ∀ (before : List Stage) (g : Stage) (after : List Stage), gs = before ++ g :: after → g.errs →
    Met (mistakes before + 1) delay g.input g.before g.outcome
  /-- Each error plans a retry at most, as long as there is time for all of them. -/
  single : planned gs ≤ mistakes gs
  allowed : planned gs * delay ≤ allowance gs
  ended : GivenUp gs → s.active = false
  silent : ∀ (before : List Stage) (g : Stage) (after : List Stage), gs = before ++ g :: after →
    GivenUp before → g.errs = false

/-- **A step without a call for a session** keeps to this. -/
theorem Within.step {s : Session} (h : Within d gs s) (hc : i.isConnect = false)
    (ht : i.isSetTimings = false) (now : Nat) :
    Within d (gs ++ [⟨s, now, i⟩]) (s.step now i).session := by
  obtain ⟨herrors, htimings⟩ := errors_step (s := s) hc now
  have hplanned := countP_alarms_le now i s
  have hmet : s.errs i → Met (mistakes gs + 1) d i s (s.step now i) := by
    intro he
    rw [← h.errors, ← h.timings]
    exact Session.met he now
  have hsilent : GivenUp gs → s.errs i = false := by
    intro hgiven
    have ha := h.ended hgiven
    cases i with
    | answer request r => simp [errs, ha]
    | _ => rfl
  have hg : (⟨s, now, i⟩ : Stage).errs = s.errs i := rfl
  constructor
  · rw [htimings ht, h.timings]
  · rw [herrors, h.errors, mistakes_concat, hg]
  · exact forall_split_concat (P := fun before g => g.errs →
      Met (mistakes before + 1) d g.input g.before g.outcome) ⟨s, now, i⟩ h.met hmet
  · rw [planned_concat, mistakes_concat]
    exact Nat.add_le_add h.single hplanned
  · rw [planned_concat, allowance_concat, hg]
    cases he : s.errs i with
    | false =>
      rw [he, Bool.toNat_false, Nat.le_zero] at hplanned
      simpa [Stage.outcome, hplanned] using h.allowed
    | true =>
      rw [if_pos rfl]
      cases hmet he with
      | retried within =>
        -- No more have been planned than there have been errors, and there is time for all of these.
        have hle : planned gs + (s.step now i).alarms.countP (·.2.repeats?.isSome) ≤
            mistakes gs + 1 := Nat.add_le_add h.single (by simpa [he] using hplanned)
        exact ((Nat.mul_le_mul_right d hle).trans within).trans (Nat.le_max_right ..)
      | ended _ _ _ alarms =>
        rw [Stage.outcome, alarms]
        exact h.allowed.trans (Nat.le_max_left ..)
  · rintro hgiven
    rw [GivenUp, since_concat] at hgiven
    rcases hgiven with ⟨-, hinactive⟩ | ⟨hgiven, hb⟩
    · exact hinactive
    · have ha := h.ended hgiven
      cases step_course (s := s) hb now with
      | keep active => rw [active, ha]
      | stop active => exact active
      | establish _ _ _ before => simp [ha] at before
  · exact forall_split_concat (P := fun before g => GivenUp before → g.errs = false) ⟨s, now, i⟩
      h.silent hsilent

/-! ## Retries of a part of a run -/

/-- Which of the alarms that are set are retries that have been set while they were watched, and how many
requests these have handed over again. -/
structure Watch where
  marks : List Bool
  resent : Nat := 0

namespace Watch

def take (watching : Bool) (now : Nat) (m : Move) (t : Traffic) (w : Watch) : Watch :=
  match t.input? m with
  | none => w
  | some i =>
    let o := t.session.step now i
    let new := o.alarms.map fun a => watching && a.2.repeats?.isSome
    match m with
    | .fire k =>
      { marks := w.marks.eraseIdx k ++ (t.armed[k]?.bind again?).toList.map (fun _ => false) ++ new
        resent := w.resent + if i.isRetry ∧ w.marks[k]? = some true then o.posts.length else 0 }
    | _ => { w with marks := w.marks ++ new }

def follow (watching : Bool) : List (Nat × Move) → Traffic → Watch → Watch
  | [], _, w => w
  | (now, m) :: ms, t, w => follow watching ms (t.step now m) (w.take watching now m t)

/-- How many requests have been handed over again, and how many more may be. -/
def due (w : Watch) : Nat := w.resent + w.marks.count true

variable {w : Watch} {watching : Bool}

/-- The retries that an outcome sets are watched from now on, or not. -/
theorem count_new (watching : Bool) (alarms : List (Nat × Alarm)) :
    (alarms.map fun a => watching && a.2.repeats?.isSome).count true =
      if watching then alarms.countP (·.2.repeats?.isSome) else 0 := by
  rw [List.count, List.countP_map]
  cases watching <;> simp [Function.comp_def]

/-- **A retry that is watched** hands its request over once at most. -/
theorem due_take (hi : t.input? m = some i) (watching : Bool) (now : Nat) (w : Watch) :
    (w.take watching now m t).due ≤ w.due +
      if watching then (t.session.step now i).alarms.countP (·.2.repeats?.isSome) else 0 := by
  have hnew := count_new watching (t.session.step now i).alarms
  simp only [take, hi]
  cases m with
  | fire k =>
    simp only [due, List.count_append, hnew]
    have hagain : ((t.armed[k]?.bind again?).toList.map fun _ => false).count true = 0 := by
      rw [List.count_eq_zero]
      simp
    have hmarked : (if i.isRetry ∧ w.marks[k]? = some true then (t.session.step now i).posts.length else 0) +
        (w.marks.eraseIdx k).count true ≤ w.marks.count true := by
      split
      · next h =>
        obtain ⟨request, sid, rfl⟩ := Input.exists_of_isRetry h.1
        have hcount := (perm_of_getElem? h.2).count_eq true
        have hposts : (t.session.fire now (.retry request sid)).posts.length ≤ 1 := by
          rw [← List.length_map (f := Request.text)]
          rcases Session.texts_fire_retry now request sid t.session with h | h <;> simp [h]
        rw [List.count_cons_self] at hcount
        rw [Session.step]
        omega
      · rw [Nat.zero_add]
        exact (List.eraseIdx_sublist _ _).count_le true
    omega
  | call | reply | openBody | closeBody =>
    simp only [due, List.count_append, hnew]
    omega

theorem due_follow (watching : Bool) (ms : List (Nat × Move)) (t : Traffic) (w : Watch) :
    (follow watching ms t w).due ≤ w.due + if watching then planned (stages ms t) else 0 := by
  induction ms generalizing t w with
  | nil => simp [follow]
  | cons x ms ih =>
    obtain ⟨now, m⟩ := x
    rw [follow, stages]
    refine (ih _ _).trans ?_
    cases hi : t.input? m with
    | none => simp [take, hi]
    | some i =>
      have hstep := due_take hi watching now w
      cases watching <;> simp [planned, Stage.outcome] at hstep ⊢ <;> omega

end Watch

/-- How many requests the retries that are set in a part of a run hand over again, then and ever after. -/
def resent (part after : List (Nat × Move)) (t : Traffic) : Nat :=
  (Watch.follow false after (t.run part)
    (Watch.follow true part t { marks := List.replicate t.armed.length false })).resent

theorem resent_le (part after : List (Nat × Move)) (t : Traffic) :
    resent part after t ≤ planned (stages part t) := by
  have hpart := Watch.due_follow true part t { marks := List.replicate t.armed.length false }
  have hafter := Watch.due_follow false after (t.run part)
    (Watch.follow true part t { marks := List.replicate t.armed.length false })
  have hnone : (List.replicate t.armed.length false).count true = 0 := by
    rw [List.count_eq_zero]
    simp
  simp only [Watch.due, hnone, if_true, Nat.zero_add] at hpart
  simp only [Watch.due, Bool.false_eq_true, if_false, Nat.add_zero] at hafter
  rw [resent]
  omega

/-- **The errors between one call for a session and the next** are put up with as long as there is time.
Whatever else happens meanwhile, be it that the session is ended, put aside and taken up, or that requests
are answered, the n-th of them has its request repeated and announces so, or ends the session and announces
that, according to whether n times the delay of the first retry is within the limit. Nothing else announces
a retry, and no error does after the session has been given up, until one begins. The retries that are set
in this time hand over no more requests, however late they go off, than the delay goes into the largest
limit. -/
theorem retried_within_budget (settings : Option Settings) (timings : Timings) (ms later : List (Nat × Move))
    (now first : Nat) :
    let t := (start settings timings).run (ms ++ [(now, .call (.connect first))])
    let gs := stages later t
    let d := t.session.timings.retryDelay
    (∀ g ∈ gs, g.input.isConnect = false ∧ g.input.isSetTimings = false) →
      (∀ (before : List Stage) (g : Stage) (after : List Stage), gs = before ++ g :: after →
        (g.errs → Met (mistakes before + 1) d g.input g.before g.outcome) ∧
        ((∃ n delay, .waitingForRetry n delay ∈ g.outcome.notices) → g.errs) ∧
        (GivenUp before → g.errs = false)) ∧
      (0 < d → ∀ after, resent later after t ≤ allowance gs / d) := by
  intro t gs d hgs
  have hzero : t.session.errors = 0 := errors_of_connect settings timings ms now first
  have hwithin : Within d ([] ++ gs) (t.run later).session := by
    refine history_induction (P := Within d)
      (K := fun g => g.input.isConnect = false ∧ g.input.isSetTimings = false) ?_ hgs ?_
    · intro gs s now i h hk
      exact h.step hk.1 hk.2 now
    · exact ⟨rfl, hzero, by simp, Nat.zero_le _, by simp [planned], fun h => absurd h not_since_nil, by simp⟩
  refine ⟨fun before g after heq => ⟨hwithin.met before g after heq, ?_, hwithin.silent before g after heq⟩,
    fun hd after => ?_⟩
  · rintro ⟨n, delay, hn⟩
    exact errs_of_waiting hn
  · rw [Nat.le_div_iff_mul_le hd]
    exact (Nat.mul_le_mul_right d (resent_le later after t)).trans hwithin.allowed

/-- Two errors are put up with, the second of them because the server allows for more than the client does.
The third ends the session. Both retries have handed their request over, and no more may be. -/
theorem retried_within_budget_of_three :
    let settings : Settings := { httpBase := "http://localhost/", hostName := "localhost" }
    let stanza : Xml.Element := { tag := { name := "message", ns := "jabber:client" } }
    let content := "<body xmlns='http://jabber.org/protocol/httpbind' sid='s' inactivity='4'/>"
    let t := (start (some settings) { errorTimeout := 2000 }).run ([] ++ [(0, .call (.connect 0))])
    let later : List (Nat × Move) := [(0, .reply 0 (.failure .timeout)), (2000, .fire 1),
      (2000, .reply 0 (.response 200 content)), (2000, .openBody 0), (2000, .closeBody 0),
      (2000, .call (.send stanza)), (2000, .reply 0 (.failure .timeout)), (4000, .fire 2),
      (4000, .reply 0 (.failure .timeout))]
    let gs := stages later t
    (∀ g ∈ gs, g.input.isConnect = false ∧ g.input.isSetTimings = false) ∧
      (∀ g ∈ gs.getLast?, Met 3 2000 g.input g.before g.outcome ∧ g.before.budget = 4000) ∧
      resent later [] t = 2 ∧ resent later [] t ≤ allowance gs / 2000 ∧ allowance gs / 2000 = 2 := by
  intro settings stanza content t later gs
  have hrun : (∀ g ∈ gs, g.input.isConnect = false ∧ g.input.isSetTimings = false) ∧
      (∀ g ∈ gs.getLast?, g.errs ∧ g.before.budget = 4000) ∧ mistakes gs.dropLast = 2 ∧
      resent later [] t = 2 ∧ allowance gs / 2000 = 2 := by decide +kernel
  obtain ⟨hgs, hlast, hcount, htwice, hallowance⟩ := hrun
  obtain ⟨hmet, hresent⟩ := retried_within_budget (some settings) { errorTimeout := 2000 } [] later 0 0 hgs
  refine ⟨hgs, fun g hg => ⟨?_, (hlast g hg).2⟩, htwice, hresent (Nat.zero_lt_succ _) [], hallowance⟩
  have hsplit : gs = gs.dropLast ++ g :: [] := (List.dropLast_append_getLast? g hg).symm
  have h := (hmet gs.dropLast g [] hsplit).1 (hlast g hg).1
  rwa [hcount] at h

end Traffic

end XmppBosh.Bosh
