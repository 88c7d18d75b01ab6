import XmppBosh.Proofs.Bosh.Stanzas
import XmppBosh.Proofs.Bosh.Traffic

/-!
# When stanzas are held back

Stanzas that may go out are to go out at once. A session sees to this whenever it is asked to send, but
not whenever it becomes able to.

* `Session.Held` : stanzas are queued though they may go out;
* `Session.Overlooks` : the inputs that let them go and hand nothing over: a body has been handed out, or
  a session is taken up, while a request is unanswered; errors are forgotten on connecting again; the
  settings allow more requests;
* `Holding`, `step_holding` : nothing else leads there, but for a reply whose body is still to be handed
  out;
* `held_iff_overlooked` : so stanzas are held back in a quiet session exactly since such an input;
* `held_of_reply` : a reply to one of two requests is enough.
-/

namespace XmppBosh.Bosh

open Xml

namespace Session

variable {s t : Session} {i : Input} {now : Nat}

/-- Whether stanzas are queued that may go out. -/
def Held (s : Session) : Prop := s.queued ≠ [] ∧ s.maySend

/-- Whether an input lets queued stanzas go and hands nothing over. -/
def Overlooks (i : Input) (s : Session) : Prop :=
  s.queued ≠ [] ∧
    match i with
    | .closeBody => s.outstanding ≠ 0 ∧ ({ s with dispatching := s.dispatching - 1 } : Session).maySend
    | .connect _ => s.renewed.maySend
    | .resume _ => s.outstanding ≠ 0 ∧ ({ s with active := true } : Session).maySend
    | .setSettings settings => ({ s with settings := some settings } : Session).maySend
    | _ => False

/-! ## Sending -/

theorem held_congr (hq : t.queued = s.queued) (hm : t.maySend = s.maySend) : t.Held ↔ s.Held := by
  rw [Held, Held, hq, hm]

theorem held_startHeartbeat (s : Session) : s.startHeartbeat.session.Held ↔ s.Held :=
  held_congr (queued_of_pending (pending_startHeartbeat s))
    ((startHeartbeat_frame s).maySend (outstanding_startHeartbeat s))

theorem not_held_of_pending_none (h : s.pending = none) : ¬ s.Held :=
  fun hs => hs.1 (by simp [queued, h])

theorem not_held_of_inactive (h : s.active = false) : ¬ s.Held :=
  fun hs => by simp [Held, maySend, h] at hs

theorem not_held_flush (now : Nat) (s : Session) : ¬ (s.flush now).session.Held := by
  rcases flush_cases now s with ⟨hidle | hnone, hf⟩ | ⟨settings, body, -, -, -, hf⟩
  · rw [hf]
    exact fun h => by simp [Held, hidle] at h
  · rw [hf]
    exact not_held_of_pending_none hnone
  · rw [hf]
    exact not_held_of_pending_none rfl

theorem keepOpen_of_busy (ho : s.outstanding ≠ 0) (now : Nat) : s.keepOpen now = ⟨s, [], []⟩ := by
  rcases keepOpen_cases now s with ⟨-, hk⟩ | ⟨hzero, -⟩ | ⟨_, -, hzero, -⟩
  · exact hk
  · exact absurd hzero ho
  · exact absurd hzero ho

/-- A session that keeps a request open holds nothing back, unless one is unanswered. -/
theorem keepOpen_of_held (hs : s.active → s.stream.isSome) (h : (s.keepOpen now).session.Held) :
    s.outstanding ≠ 0 ∧ s.Held := by
  rcases keepOpen_cases now s with ⟨hnone | ho, hk⟩ | ⟨-, -, hk⟩ | ⟨stream, -, -, hnone, hk⟩
  · rw [hk] at h
    cases ha : s.active with
    | true => simpa [hnone] using hs ha
    | false => exact absurd h (not_held_of_inactive ha)
  · exact ⟨ho, by simpa [hk] using h⟩
  · exact absurd (hk ▸ h) (not_held_flush now s)
  · rw [hk] at h
    exact absurd h (not_held_of_pending_none hnone)

/-! ## What may hold stanzas back -/

/-- Stanzas are held back after a step that leaves them and the policy alone, that overlooks them, or
after a reply whose body is still to be handed out. -/
inductive Holding (i : Input) (s t : Session) : Prop
  | left (queued : t.queued = s.queued) (before : s.maySend) (after : t.maySend)
  | overlooked (overlooks : s.Overlooks i)
  | arriving (request : String) (r : Reply) (body : Element) (input : i = .answer request r)
    (carried : s.carried? r = some body)

theorem connect_holding {start : Nat} (h : (s.connect now start).session.Held) :
    Holding (.connect start) s (s.connect now start).session := by
  have hc := started now start s
  generalize s.connect now start = o at hc h ⊢
  cases hc with
  | refused => exact .left rfl h.2 h.2
  | renewed => exact .overlooked h
  | begun settings =>
    have hflush := (held_startHeartbeat _).1 h
    exact absurd hflush (not_held_flush now (s.opening settings start))

theorem answer_holding {request : String} {r : Reply} (h : (s.answer now request r).session.Held) :
    Holding (.answer request r) s (s.answer now request r).session := by
  have ha := answered now request r s
  generalize s.answer now request r = o at ha h ⊢
  cases ha with
  | ignored => exact .left rfl h.2 h.2
  | accepted hactive body hr =>
    have hcarried : s.carried? r = some body := by simp [carried?_eq, hactive, hr, Reading.body?]
    exact .arriving request r body rfl hcarried
  | repeated _ reason =>
    have hretrying : request ∈ (s.failed request).retrying := mem_retrying_failed.2 (.inr rfl)
    have hempty : (s.failed request).retrying = [] := by
      simpa [maySend] using (Bool.and_eq_true_iff.1 h.2).2
    simp [hempty] at hretrying
  | gone => exact absurd h (not_held_of_inactive (active_giveUp ..))
  | exhausted => exact absurd h (not_held_of_inactive (active_giveUp ..))

theorem not_held_openBody (e : Element) (s : Session) : ¬ (s.openBody e).session.Held := by
  have ho := opened e s
  generalize s.openBody e = o at ho ⊢
  cases ho with
  | ignored ha => exact not_held_of_inactive ha
  | terminal => exact not_held_of_inactive rfl
  | establish => exact fun h => by simp [Held, maySend] at h
  | further => exact fun h => by simp [Held, maySend] at h

theorem outstanding_le_fire_retry {request : String} {sid : Option String}
    (hs : (s.fire now (.retry request sid)).session.settings.isSome) :
    s.outstanding ≤ (s.fire now (.retry request sid)).session.outstanding := by
  rw [(fire_frame now (.retry request sid) s).settings] at hs
  obtain ⟨settings, hs⟩ := Option.isSome_iff_exists.1 hs
  simp only [fire]
  split
  · rw [transmit_eq (s := { s with outstanding := s.outstanding - 1 }) hs]
    show s.outstanding ≤ s.outstanding - 1 + 1
    omega
  · exact Nat.le_refl _

/-- The request that is repeated is counted again, so there was room for another one before. -/
theorem fire_retry_holding {request : String} {sid : Option String}
    (h : (s.fire now (.retry request sid)).session.Held) :
    Holding (.fire (.retry request sid)) s (s.fire now (.retry request sid)).session := by
  have hframe := fire_frame now (.retry request sid) s
  have hle := outstanding_le_fire_retry (settings_isSome_of_maySend h.2)
  have hmay := h.2
  refine .left (fire_retry_carried now request sid s).1 ?_ h.2
  simp only [maySend, hframe.dispatching, hframe.active, hframe.maxRequests, hframe.retrying,
    Bool.and_eq_true, decide_eq_true_eq] at hmay ⊢
  exact ⟨⟨hmay.1.1, Nat.lt_of_le_of_lt hle hmay.1.2⟩, hmay.2⟩

theorem fire_holding {alarm : Alarm} (hg : s.Grounded) (h : (s.fire now alarm).session.Held) :
    Holding (.fire alarm) s (s.fire now alarm).session := by
  cases alarm with
  | retry request sid => exact fire_retry_holding h
  | continuation rid =>
    simp only [fire] at h
    split at h
    · exact absurd h (not_held_flush now (s.edit id))
    · next hidle =>
      rw [fire, if_neg hidle]
      exact .left rfl h.2 h.2
  | heartbeat period =>
    simp only [fire] at h
    split at h
    · next hready =>
      obtain ⟨ho, hheld⟩ := keepOpen_of_held hg h
      rw [fire, if_pos hready, keepOpen_of_busy ho]
      exact .left rfl hheld.2 hheld.2
    · next hready =>
      rw [fire, if_neg hready]
      exact .left rfl h.2 h.2

/-- **What may hold stanzas back**, whatever is done. -/
theorem step_holding (hg : s.Grounded) (h : (s.step now i).session.Held) :
    Holding i s (s.step now i).session := by
  cases i with
  | connect start => exact connect_holding h
  | disconnect => exact absurd h (not_held_of_pending_none (pending_disconnect now s))
  | send stanza => exact absurd h (not_held_flush now (s.edit (Body.push stanza)))
  | flush => exact absurd h (not_held_flush now s)
  | restart =>
    have hqueued : s.restart.queued = s.queued := by simp [restart, queued_edit]
    exact .left hqueued ((maySend_edit _ s).symm.trans h.2) h.2
  | pause =>
    simp only [step, pause] at h ⊢
    split
    · next hnone =>
      rw [hnone] at h
      exact .left rfl h.2 h.2
    · next seconds hsome =>
      rw [hsome] at h
      exact absurd h (not_held_of_pending_none (pending_release now _))
  | resume stream =>
    have hkeep := (held_startHeartbeat _).1 h
    obtain ⟨ho, hheld⟩ := keepOpen_of_held (s := { s with active := true, stream := some stream })
      (fun _ => rfl) hkeep
    exact .overlooked ⟨hheld.1, ho, hheld.2⟩
  | setSettings settings => exact .overlooked h
  | setTimings timings => exact .left rfl h.2 h.2
  | answer request r => exact answer_holding h
  | openBody e => exact absurd h (not_held_openBody e s)
  | closeBody =>
    obtain ⟨ho, hheld⟩ := keepOpen_of_held (s := { s with dispatching := s.dispatching - 1 }) hg h
    exact .overlooked ⟨hheld.1, ho, hheld.2⟩
  | fire alarm => exact fire_holding hg h

theorem held_of_overlooks (h : s.Overlooks i) (now : Nat) : (s.step now i).session.Held := by
  obtain ⟨hqueued, hi⟩ := h
  cases i with
  | connect start =>
    have hmay : s.renewed.maySend := hi
    have hc := started now start s
    simp only [step]
    generalize s.connect now start = o at hc ⊢
    cases hc with
    | refused hs =>
      have hsome := settings_isSome_of_maySend hmay
      simp [renewed, hs] at hsome
    | renewed => exact ⟨hqueued, hmay⟩
    | begun _ _ ha => simp [maySend, renewed, ha] at hmay
  | resume stream =>
    obtain ⟨ho, hmay⟩ := hi
    apply (held_startHeartbeat _).2
    rw [keepOpen_of_busy (s := { s with active := true, stream := some stream }) ho]
    exact ⟨hqueued, hmay⟩
  | setSettings settings => exact ⟨hqueued, hi⟩
  | closeBody =>
    obtain ⟨ho, hmay⟩ := hi
    rw [step, closeBody, keepOpen_of_busy (s := { s with dispatching := s.dispatching - 1 }) ho]
    exact ⟨hqueued, hmay⟩
  | _ => cases hi

end Session

namespace Traffic

variable {t : Traffic} {m : Move} {i : Input} {now : Nat} {gs : List Stage}

/-- Whether a step leaves the queued stanzas where they are, and they may still go out. -/
def Stage.Leaves (g : Stage) : Prop :=
  g.outcome.session.queued = g.before.queued ∧ g.outcome.session.maySend

/-- Stanzas have been overlooked, and have been left where they are since. -/
def Overlooked (gs : List Stage) : Prop := Since (fun g => g.before.Overlooks g.input) Stage.Leaves gs

/-- Stanzas are held back exactly since they have been overlooked, if no body is to be opened. -/
structure Prompt (gs : List Stage) (t : Traffic) : Prop where
  grounded : t.session.Grounded
  held : Overlooked gs → t.session.Held
  overlooked : t.session.Held → t.arrived ≠ [] ∨ Overlooked gs

theorem arrived_consume_ne_nil (h : t.arrived ≠ []) (hm : ∀ k, m ≠ .openBody k) :
    (t.consume m).arrived ≠ [] := by
  cases m with
  | openBody k => exact absurd rfl (hm k)
  | reply k r => exact List.append_ne_nil_of_left_ne_nil h _
  | _ => exact h

theorem Prompt.step (h : Prompt gs t) (hi : t.input? m = some i) (now : Nat) :
    Prompt (gs ++ [⟨t.session, now, i⟩]) ((t.consume m).act now i) := by
  have hsession : ((t.consume m).act now i).session = (t.session.step now i).session := by
    rw [act, session_deliver, session_consume]
  have harrived : ((t.consume m).act now i).arrived = (t.consume m).arrived := rfl
  constructor
  · rw [hsession]
    exact h.grounded.step now i
  · intro ho
    rw [hsession]
    rcases since_concat.1 ho with hover | ⟨hsince, hqueued, hmay⟩
    · exact Session.held_of_overlooks hover now
    · exact ⟨hqueued ▸ (h.held hsince).1, hmay⟩
  · rw [hsession, harrived]
    intro hheld
    -- Either they are overlooked now, or a body has come in, or they were held back before.
    cases Session.step_holding h.grounded hheld with
    | overlooked hover => exact .inr (since_concat.2 (.inl hover))
    | arriving request r body input carried =>
      subst input
      obtain ⟨k, q, rfl, -, -⟩ := reply_of_input? hi
      left
      show t.arrived ++ (t.session.carried? r).toList ≠ []
      simp [carried]
    | left queued before after =>
      have hbefore : t.session.Held := ⟨queued ▸ hheld.1, before⟩
      refine (h.overlooked hbefore).imp (fun hne => ?_) fun hsince => ?_
      · apply arrived_consume_ne_nil hne
        rintro k rfl
        obtain ⟨e, -, rfl⟩ := Option.map_eq_some_iff.1 hi
        exact Session.not_held_openBody e t.session hheld
      · exact since_concat.2 (.inr ⟨hsince, queued, after⟩)

/-- **Stanzas are held back exactly since they have been overlooked.** In every state of every run in
which no body is to be opened, stanzas are queued that may go out if and only if some input has let them
go without handing anything over, and every step since has left them where they are. -/
theorem held_iff_overlooked (settings : Option Settings) (timings : Timings) (ms : List (Nat × Move)) :
    let t := start settings timings
    (t.run ms).arrived = [] → ((t.run ms).session.Held ↔ Overlooked (stages ms t)) := by
  intro t harrived
  have hstart : Prompt [] t := by
    refine ⟨fun ha => ?_, fun ho => absurd ho not_since_nil, fun hheld => ?_⟩
    · cases ha
    · exact absurd hheld (Session.not_held_of_inactive rfl)
  have hrun : Prompt (stages ms t) (t.run ms) :=
    stages_induction (P := Prompt) (fun gs t now m i h hi => h.step hi now) hstart ms
  exact ⟨fun hheld => (hrun.overlooked hheld).resolve_left (absurd harrived), hrun.held⟩

/-- Two requests may be unanswered, so the third stanza waits for a reply. The first reply makes room
for it, but it is not handed over. -/
theorem held_of_reply :
    let settings : Settings := { httpBase := "http://localhost/", hostName := "localhost" }
    let stanza : Element := { tag := { name := "message", ns := "jabber:client" } }
    let established := "<body xmlns='http://jabber.org/protocol/httpbind' sid='s'/>"
    let empty := "<body xmlns='http://jabber.org/protocol/httpbind'/>"
    let ms : List (Nat × Move) := [(0, .call (.connect 0)), (0, .reply 0 (.response 200 established)),
      (0, .openBody 0), (0, .closeBody 0), (0, .call (.send stanza)), (0, .call (.send stanza)),
      (0, .call (.send stanza)), (0, .reply 0 (.response 200 empty)), (0, .openBody 0),
      (0, .closeBody 0)]
    let t := (start (some settings) {}).run ms
    t.arrived = [] ∧ t.opened = [] ∧ t.session.queued.length = 1 ∧ t.session.maySend ∧
      Overlooked (stages ms (start (some settings) {})) := by
  intro settings stanza established empty ms t
  have harrived : t.arrived = [] := List.isEmpty_iff.1 (by decide +kernel)
  have hopened : t.opened = [] := List.isEmpty_iff.1 (by decide +kernel)
  have hqueued : t.session.queued.length = 1 := by decide +kernel
  have hmay : t.session.maySend := by decide +kernel
  have hheld : t.session.Held := ⟨List.ne_nil_of_length_pos (by omega), hmay⟩
  exact ⟨harrived, hopened, hqueued, hmay,
    (held_iff_overlooked (some settings) {} ms harrived).1 hheld⟩

end Traffic

end XmppBosh.Bosh
