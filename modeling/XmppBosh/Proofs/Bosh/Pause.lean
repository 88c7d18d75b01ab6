import Mathlib
import XmppBosh.Proofs.Bosh.Handover

/-!
# How long a session stays put aside

A session that has been put aside is still active. It looks at its replies and alarms as before, and so it
may begin a body although the client has asked for nothing.

* `rid?_step` : a step keeps the number of the stream, or takes the next one;
* `Session.Rests` : nothing is pending, and the last number was this one;
* `Session.wakes` : whether an input makes a session that rests begin a body; `Rests.step`,
  `Rests.rid?_of_wakes` : it does so exactly then;
* `Woken`, `Rests.woken` : what goes out then;
* `Unused`, `Unwoken` : no body has been begun since the one with this number, and nothing has woken the
  session;
* `unused_iff_of_paused` : for how long the number after that of the token stays unused, and what uses it;
* `used_of_answered` : a session that is put aside and answered asks the server again.
-/

namespace XmppBosh.Bosh

open Xml

def Move.isCall : Move → Bool
  | .call _ => true
  | _ => false

namespace Session

variable {s : Session} {i : Input} {now rid : Nat}

/-! ## The number of the stream -/

@[simp] theorem rid?_release (now : Nat) (s : Session) : (s.release now).session.rid? = s.rid? := by
  unfold release
  split
  · rfl
  · exact rid?_transmit ..

@[simp] theorem rid?_flush (now : Nat) (s : Session) : (s.flush now).session.rid? = s.rid? := by
  unfold flush
  split
  · exact rid?_release now s
  · rfl

@[simp] theorem rid?_keepOpen (now : Nat) (s : Session) : (s.keepOpen now).session.rid? = s.rid? := by
  rcases keepOpen_cases now s with ⟨-, h⟩ | ⟨-, -, h⟩ | ⟨_, -, -, -, h⟩ <;> simp [h]

@[simp] theorem rid?_ended (s : Session) : s.ended.rid? = s.rid? := by
  simp [ended, rid?, Function.comp_def]

theorem rid?_disconnect (now : Nat) (s : Session) :
    (s.disconnect now).session.rid? = s.rid?.map (· + 1) := by
  rw [disconnect_eq]
  cases hs : s.stream with
  | none => simp [rid?, ended, cleared, hs]
  | some stream =>
    have hrid : s.farewell.rid? = s.rid?.map (· + 1) := rid?_edit _ s.cleared
    simpa using hrid

theorem draftRid?_cases (s : Session) : s.draftRid? = s.rid? ∨ s.draftRid? = s.rid?.map (· + 1) := by
  unfold draftRid?
  split
  · exact .inl rfl
  · exact .inr rfl

theorem rid?_answer (now : Nat) (request : String) (r : Reply) (s : Session) :
    (s.answer now request r).session.rid? =
      if s.discards (.answer request r) then s.rid?.map (· + 1) else s.rid? := by
  have h := answered now request r s
  generalize s.answer now request r = o at h ⊢
  cases h with
  | ignored ha => simp [discards, ha]
  | accepted ha body hr => simp [discards, hr, accept, rid?]
  | repeated ha reason hr hx => simp [discards, hr, hx, failed, rid?]
  | gone ha content hr =>
    have hd : s.discards (.answer request r) := by simp [discards, ha, hr]
    rw [if_pos hd]
    exact rid?_disconnect now { s with outstanding := s.outstanding - 1 }
  | exhausted ha reason hr hx =>
    have hd : s.discards (.answer request r) := by simp [discards, ha, hr, hx]
    rw [if_pos hd]
    exact rid?_disconnect now { s.failed request with outstanding := (s.failed request).outstanding - 1 }

theorem rid?_openBody (body : Element) (s : Session) : (s.openBody body).session.rid? = s.rid? := by
  have ho := opened body s
  generalize s.openBody body = o at ho ⊢
  cases ho with
  | ignored | further => rfl
  | terminal => exact rid?_ended s
  | establish _ _ stream hst => simp [rid?, hst, establish]

theorem rid?_fire (now : Nat) (alarm : Alarm) (s : Session) :
    (s.fire now alarm).session.rid? = s.rid? ∨ (s.fire now alarm).session.rid? = s.draftRid? := by
  cases alarm with
  | retry request sid => exact .inl (step_kept_of_isRetry (i := .fire (.retry request sid)) rfl now s).2
  | continuation rid =>
    simp only [fire]
    split
    · exact .inr (by simp)
    · exact .inl rfl
  | heartbeat period =>
    simp only [fire]
    split
    · exact .inl (rid?_keepOpen now s)
    · exact .inl rfl

/-- **A step that begins no session** keeps the number of the stream, or takes the next one. -/
theorem rid?_step (hb : s.begins i = false) (now : Nat) :
    (s.step now i).session.rid? = s.rid? ∨ (s.step now i).session.rid? = s.rid?.map (· + 1) := by
  cases i with
  | connect start =>
    have hc := started now start s
    simp only [step]
    generalize s.connect now start = o at hc ⊢
    cases hc with
    | refused | renewed => exact .inl rfl
    | begun settings hs ha => simp [begins, hs, ha] at hb
  | disconnect => exact .inr (rid?_disconnect now s)
  | send stanza =>
    rw [step, send, rid?_flush, rid?_edit]
    exact draftRid?_cases s
  | flush => exact .inl (rid?_flush now s)
  | restart =>
    rw [step, restart, rid?_edit]
    exact draftRid?_cases s
  | pause =>
    rw [step, pause]
    split
    · exact .inl rfl
    · rw [rid?_release, rid?_edit]
      exact draftRid?_cases s
  | resume stream => cases hb
  | setSettings settings | setTimings timings => exact .inl rfl
  | answer request r =>
    rw [step, rid?_answer]
    split
    · exact .inr rfl
    · exact .inl rfl
  | openBody body => exact .inl (rid?_openBody body s)
  | closeBody => exact .inl (rid?_keepOpen now { s with dispatching := s.dispatching - 1 })
  | fire alarm =>
    rcases rid?_fire now alarm s with h | h
    · exact .inl h
    · rw [step, h]
      exact draftRid?_cases s

/-! ## Resting -/

/-- Nothing is pending, and the last number that was given to a body is this one. -/
structure Rests (rid : Nat) (s : Session) : Prop where
  pending : s.pending = none
  rid : s.rid? = some rid

/-- Whether an input makes a session that rests begin a body: the reply that ends it, or the alarm that
has it ask the server again. -/
def wakes (i : Input) (s : Session) : Bool :=
  s.discards i ||
    match i with
    | .fire (.continuation rid) => s.isIdle rid
    | _ => false

theorem Rests.draftRid? (h : s.Rests rid) : s.draftRid? = some (rid + 1) := by
  simp [Session.draftRid?, h.pending, h.rid]

theorem Rests.of_same {t : Session} (h : s.Rests rid) (hp : t.pending = s.pending) (hr : t.rid? = s.rid?) :
    t.Rests rid :=
  ⟨hp.trans h.pending, hr.trans h.rid⟩

theorem Rests.keepOpen (h : s.Rests rid) (now : Nat) :
    (s.keepOpen now).session = s ∧ (s.keepOpen now).posts = [] := by
  rcases keepOpen_cases now s with ⟨-, hk⟩ | ⟨-, hp, -⟩ | ⟨_, -, -, -, hk⟩
  · rw [hk]
    exact ⟨rfl, rfl⟩
  · simp [h.pending] at hp
  · rw [hk]
    exact ⟨rfl, rfl⟩

theorem Rests.answer (h : s.Rests rid) {request : String} {r : Reply}
    (hd : s.discards (.answer request r) = false) (now : Nat) :
    (s.answer now request r).session.Rests rid ∧ (s.answer now request r).posts = [] := by
  have ha := answered now request r s
  generalize s.answer now request r = o at ha ⊢
  cases ha with
  | ignored | accepted | repeated => exact ⟨h.of_same rfl rfl, rfl⟩
  | gone ha content hr => simp [discards, ha, hr] at hd
  | exhausted ha reason hr hx => simp [discards, ha, hr, hx] at hd

theorem Rests.openBody (h : s.Rests rid) (body : Element) :
    (s.openBody body).session.Rests rid ∧ (s.openBody body).posts = [] := by
  have ho := opened body s
  have hr := rid?_openBody body s
  generalize s.openBody body = o at ho hr ⊢
  cases ho <;> exact ⟨h.of_same rfl hr, rfl⟩

/-- **A session that rests** goes on resting as long as nothing wakes it, and hands over nothing new. -/
theorem Rests.step (h : s.Rests rid) (hc : i.isCall = false) (hw : s.wakes i = false) (now : Nat) :
    (s.step now i).session.Rests rid ∧ (i.isRetry = false → (s.step now i).posts = []) := by
  cases i with
  | answer request r =>
    obtain ⟨hrests, hposts⟩ := h.answer (by simpa [wakes] using hw) now
    exact ⟨hrests, fun _ => hposts⟩
  | openBody body =>
    obtain ⟨hrests, hposts⟩ := h.openBody body
    exact ⟨hrests, fun _ => hposts⟩
  | closeBody =>
    have hrests : Rests rid { s with dispatching := s.dispatching - 1 } := h.of_same rfl rfl
    obtain ⟨hsession, hposts⟩ := hrests.keepOpen now
    exact ⟨(congrArg (Rests rid) hsession).mpr hrests, fun _ => hposts⟩
  | fire alarm =>
    cases alarm with
    | retry request sid =>
      obtain ⟨hpending, hrid⟩ := step_kept_of_isRetry (i := .fire (.retry request sid)) rfl now s
      exact ⟨h.of_same hpending hrid, nofun⟩
    | continuation n =>
      have hidle : s.isIdle n = false := by simpa [wakes, discards] using hw
      simp only [Session.step, fire, hidle]
      exact ⟨h, fun _ => rfl⟩
    | heartbeat period =>
      simp only [Session.step, fire]
      split
      · obtain ⟨hsession, hposts⟩ := h.keepOpen now
        exact ⟨(congrArg (Rests rid) hsession).mpr h, fun _ => hposts⟩
      · exact ⟨h, fun _ => rfl⟩
  | _ => cases hc

/-- **What wakes it** makes it take the next number. -/
theorem Rests.rid?_of_wakes (h : s.Rests rid) (hc : i.isCall = false) (hw : s.wakes i) (now : Nat) :
    (s.step now i).session.rid? = some (rid + 1) := by
  cases i with
  | answer request r =>
    have hd : s.discards (.answer request r) := by simpa [wakes] using hw
    rw [Session.step, rid?_answer, if_pos hd, h.rid, Option.map_some]
  | openBody body | closeBody => cases hw
  | fire alarm =>
    cases alarm with
    | retry request sid | heartbeat period => cases hw
    | continuation n =>
      have hidle : s.isIdle n := by simpa [wakes, discards] using hw
      rw [Session.step, fire, if_pos hidle, rid?_flush, rid?_edit, h.draftRid?]
  | _ => cases hc

structure Woken (rid now : Nat) (i : Input) (s : Session) : Prop where
  number : (s.outgoing i).attr? "rid" = some (toString (rid + 1))
  texts : ∀ q ∈ (s.step now i).posts, q.text = (s.outgoing i).text
  /-- It goes out at once, unless bodies are being handed out or no request may be sent. -/
  posts : s.discards i ∨ s.dispatching = 0 ∧ 0 < s.maxRequests → (s.step now i).posts.length = 1

theorem length_posts_continuation (hs : s.settings.isSome) {n : Nat} (hidle : s.isIdle n)
    (hd : s.dispatching = 0) (hmax : 0 < s.maxRequests) (now : Nat) :
    (s.fire now (.continuation n)).posts.length = 1 := by
  simp only [isIdle, Bool.and_eq_true, decide_eq_true_eq] at hidle
  obtain ⟨⟨⟨⟨hactive, -⟩, hout⟩, hretrying⟩, -⟩ := id hidle
  have hm : (s.edit id).maySend := by
    rw [maySend_edit]
    simp [maySend, hd, hactive, hout, hmax, hretrying]
  obtain ⟨settings, hs⟩ := Option.isSome_iff_exists.1 hs
  have hset : (s.edit id).settings = some settings := (edit_frame id s).settings.trans hs
  have hfire : s.fire now (.continuation n) = (s.edit id).release now := by
    simp [fire, isIdle, hidle, flush, hm]
  rw [hfire, release_eq hset (pending_edit id s)]
  rfl

theorem Rests.woken (h : s.Rests rid) (hs : s.settings.isSome) (hc : i.isCall = false) (hw : s.wakes i)
    (now : Nat) : Woken rid now i s := by
  have hnext : s.draft.attr? "rid" = some (toString (rid + 1)) := Numbered.rid_draft h.pending h.draftRid?
  have hstream : s.stream.isSome := by
    have hrid := congrArg Option.isSome h.rid
    simpa [rid?] using hrid
  cases i with
  | answer request r =>
    have hd : s.discards (.answer request r) := by simpa [wakes] using hw
    refine ⟨?_, fun q hq => text_of_mem_posts hs rfl hq, fun _ => length_posts_answer hs hstream hd now⟩
    have hcleared : s.cleared = s := by
      rw [cleared, ← h.pending]
    simp only [outgoing, hd, if_true, hcleared]
    rw [Body.attr?_set, if_neg (by decide), hnext]
  | openBody body | closeBody => cases hw
  | fire alarm =>
    cases alarm with
    | retry request sid | heartbeat period => cases hw
    | continuation n =>
      have hidle : s.isIdle n := by simpa [wakes, discards] using hw
      refine ⟨hnext, fun q hq => text_of_mem_posts hs rfl hq, ?_⟩
      rintro (hd | ⟨hd, hmax⟩)
      · cases hd
      · exact length_posts_continuation hs hidle hd hmax now
  | _ => cases hc

/-- A session that rests and waits for nothing is about to ask the server again, however it got there. -/
theorem Rests.idle (h : s.Rests rid) (ha : s.active) (ho : s.outstanding = 0) (hr : s.retrying = []) :
    s.wakes (.fire (.continuation rid)) ∧
      (∀ now, (s.closeBody now).alarms = [(s.timings.continuation, .continuation rid)]) ∧
      ∀ now period, (s.fire now (.heartbeat period)).alarms =
        [(s.timings.continuation, .continuation rid)] := by
  obtain ⟨stream, hstream, rfl⟩ := Option.map_eq_some_iff.1 h.rid
  refine ⟨?_, fun now => ?_, fun now period => ?_⟩
  · simp [wakes, isIdle, ha, ho, hr, h.pending, hstream]
  · simp [closeBody, Session.keepOpen, hstream, ho, h.pending]
  · simp [fire, ha, hr, Session.keepOpen, hstream, ho, h.pending]

end Session

namespace Traffic

open Session

variable {t : Traffic} {i : Input} {m : Move} {now rid : Nat} {gs : List Stage} {s : Session}

/-! ## Without the client -/

theorem isCall_input? (h : t.input? m = some i) : i.isCall = m.isCall := by
  cases m with
  | call j => exact isCall_of_input? h
  | _ =>
    obtain ⟨_, -, rfl⟩ := Option.map_eq_some_iff.1 h
    rfl

/-! ## The number after that of the token -/

/-- No new body has been handed over, and none has been begun since the one with this number. -/
structure Unused (rid : Nat) (gs : List Stage) (s : Session) : Prop where
  bodies : gs.flatMap Stage.bodies = []
  rests : s.Rests rid

def Unwoken (gs : List Stage) : Prop := ∀ g ∈ gs, g.before.wakes g.input = false

/-- Either nothing has woken the session and the number is unused, or something has and it is used. -/
def Divided (rid : Nat) (gs : List Stage) (s : Session) : Prop :=
  (Unwoken gs ∧ Unused rid gs s) ∨ (¬ Unwoken gs ∧ ∃ n, s.rid? = some n ∧ rid < n)

theorem unwoken_concat {g : Stage} :
    Unwoken (gs ++ [g]) ↔ Unwoken gs ∧ g.before.wakes g.input = false := by
  rw [Unwoken, List.forall_mem_append, List.forall_mem_singleton, Unwoken]

theorem Unused.step (h : Unused rid gs s) (hc : i.isCall = false) (hw : s.wakes i = false) (now : Nat) :
    Unused rid (gs ++ [⟨s, now, i⟩]) (s.step now i).session := by
  obtain ⟨hrests, hposts⟩ := h.rests.step hc hw now
  refine ⟨?_, hrests⟩
  rw [List.flatMap_append, List.flatMap_singleton, h.bodies, List.nil_append]
  cases hr : i.isRetry with
  | true => exact Stage.bodies_retry hr
  | false => simp [Stage.bodies, Stage.outcome, hr, hposts hr]

theorem Divided.step (h : Divided rid gs s) (hc : i.isCall = false) (now : Nat) :
    Divided rid (gs ++ [⟨s, now, i⟩]) (s.step now i).session := by
  rw [Divided, unwoken_concat]
  rcases h with ⟨hgs, hunused⟩ | ⟨hgs, n, hn, hlt⟩
  · cases hw : s.wakes i with
    | false => exact .inl ⟨⟨hgs, rfl⟩, hunused.step hc hw now⟩
    | true => exact .inr ⟨fun h => by simp at h, rid + 1, hunused.rests.rid?_of_wakes hc hw now, by omega⟩
  · -- A number that has been used is not given back.
    have hb : s.begins i = false := by
      cases i with
      | connect start | resume stream => cases hc
      | _ => rfl
    refine .inr ⟨fun h => hgs h.1, ?_⟩
    rcases rid?_step hb now with hr | hr
    · exact ⟨n, hr.trans hn, hlt⟩
    · exact ⟨n + 1, by rw [hr, hn, Option.map_some], by omega⟩

theorem Divided.unused_iff (h : Divided rid gs s) : Unused rid gs s ↔ Unwoken gs := by
  rcases h with ⟨hgs, hunused⟩ | ⟨hgs, n, hn, hlt⟩
  · exact iff_of_true hunused hgs
  · refine iff_of_false (fun h => ?_) hgs
    have heq : n = rid := Option.some.inj (hn.symm.trans h.rests.rid)
    omega

theorem rests_of_token? {token : Stream} (h : s.token? now = some token) :
    (s.pause now).session.Rests token.rid := by
  unfold token? at h
  split at h
  · next hmax =>
    obtain ⟨seconds, hmax⟩ := Option.isSome_iff_exists.1 hmax
    refine ⟨?_, by rw [rid?, h, Option.map_some]⟩
    simp only [pause, hmax]
    exact pending_release now _
  · cases h

/-- **For how long a session stays put aside.** A client puts its session aside, gets a token, and asks
for nothing more. The number after that of the token stays unused exactly as long as nothing wakes the
session: a reply that ends it, or the alarm that has it ask the server again. What wakes it goes out with
just this number. The alarm is set as soon as the session has no request left to wait for, once its reply
has been handed out or by the heartbeat, and when it goes off and nothing has happened in between, it
wakes the session. -/
theorem unused_iff_of_paused (settings : Option Settings) (timings : Timings) (ms : List (Nat × Move))
    (now : Nat) (token : Stream)
    (htoken : ((start settings timings).run ms).session.token? now = some token)
    (later : List (Nat × Move)) (hlater : ∀ x ∈ later, x.2.isCall = false) :
    let t := ((start settings timings).run ms).step now (.call .pause)
    let gs := stages later t
    let s := (t.run later).session
    (Unused token.rid gs s ↔ Unwoken gs) ∧
      (Unused token.rid gs s →
        (∀ now i, i.isCall = false → s.wakes i → s.settings.isSome → Woken token.rid now i s) ∧
        (s.active → s.outstanding = 0 → s.retrying = [] →
          s.wakes (.fire (.continuation token.rid)) ∧
            (∀ now, (s.closeBody now).alarms = [(s.timings.continuation, .continuation token.rid)]) ∧
            ∀ now period, (s.fire now (.heartbeat period)).alarms =
              [(s.timings.continuation, .continuation token.rid)])) := by
  intro t gs s
  have hdivided : Divided token.rid ([] ++ gs) s := by
    apply moves_induction (P := fun gs t => Divided token.rid gs t.session) (K := (·.isCall = false)) _ hlater
    · exact .inl ⟨List.forall_mem_nil _, rfl, rests_of_token? htoken⟩
    · intro gs t now m i h hm hi
      rw [session_act]
      exact h.step ((isCall_input? hi).trans hm) now
  refine ⟨hdivided.unused_iff, fun hunused => ⟨?_, hunused.rests.idle⟩⟩
  intro now i hc hw hs
  exact hunused.rests.woken hs hc hw now

/-- The request that puts a session aside is answered. After a while the session asks the server again,
with the number that another client would use for its first request. -/
theorem used_of_answered :
    let settings : Settings := { httpBase := "http://localhost/", hostName := "localhost" }
    let content := "<body xmlns='http://jabber.org/protocol/httpbind' sid='s' maxpause='9'/>"
    let ms : List (Nat × Move) := [(0, .call (.connect 7)), (0, .reply 0 (.response 200 content)),
      (0, .openBody 0), (0, .closeBody 0)]
    let token : Stream := { sid := some "s", rid := 9, maxPause := some 9, lastRequest := some 0 }
    let later : List (Nat × Move) := [(0, .reply 0 (.response 200 content)), (0, .openBody 0),
      (0, .closeBody 0), (300, .fire 2)]
    let t := ((start (some settings) {}).run ms).step 0 (.call .pause)
    let gs := stages later t
    ((start (some settings) {}).run ms).session.token? 0 = some token ∧
      (∀ x ∈ later, x.2.isCall = false) ∧ ¬ Unused 9 gs (t.run later).session ∧
      (gs.flatMap Stage.bodies).map Body.heading = [(some "10", some "s")] := by
  intro settings content ms token later t gs
  have htoken : ((start (some settings) {}).run ms).session.token? 0 = some token := by decide +kernel
  have hlater : ∀ x ∈ later, x.2.isCall = false := by decide
  obtain ⟨hiff, -⟩ := unused_iff_of_paused (some settings) {} ms 0 token htoken later hlater
  refine ⟨htoken, hlater, ?_, by decide +kernel⟩
  rw [hiff]
  show ¬ ∀ g ∈ gs, g.before.wakes g.input = false
  decide +kernel

end Traffic

end XmppBosh.Bosh
