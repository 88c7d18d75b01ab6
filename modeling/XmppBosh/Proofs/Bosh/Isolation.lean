import XmppBosh.Proofs.Bosh.Traffic

/-!
# Replies and the session that they meet

A reply is looked at by the session that is active when it comes, whichever session its request was
handed over in. This module tells exactly when that leaves the session alone.

* `Traffic.Late` : a request of an earlier session that has no reply yet;
* `Traffic.settle` : a reply with all that follows from it of itself;
* `Traffic.Undisturbed` : this changes nothing of the session, and nothing is announced or handed out;
* `Session.Unmoved` : the replies that an active session is not moved by: an empty body for an
  established session that waits for no reply and holds nothing back that may go out;
* `undisturbed_iff_of_late` : a late reply leaves the session alone exactly when the session is not
  active or unmoved by it.
-/

namespace XmppBosh.Bosh

open Xml

/-- Nothing that matters to a session differs but the number and the time of its last request. -/
structure Agrees (s t : Session) : Prop where
  active : t.active = s.active
  terms : t.stream.map Stream.terms = s.stream.map Stream.terms
  pending : t.pending = s.pending
  outstanding : t.outstanding = s.outstanding
  errors : t.errors = s.errors
  retrying : t.retrying = s.retrying

theorem Agrees.refl (s : Session) : Agrees s s := ⟨rfl, rfl, rfl, rfl, rfl, rfl⟩

/-! ## Sessions that a reply does not move -/

namespace Session

variable {s : Session} {request : String}

/-- The replies that an active session is not moved by: an empty body, for an established session that
waits for no reply, does not repeat the request, and holds nothing back that may go out. -/
structure Unmoved (request : String) (body : Element) (s : Session) : Prop where
  terminal : isTerminal body = false
  empty : body.elements = []
  established : s.sid?.isSome
  idle : s.outstanding = 0
  fresh : request ∉ s.retrying
  held : s.pending = none ∨ s.maySend = false

theorem accept_eq_self (ho : s.outstanding = 0) (hr : request ∉ s.retrying) :
    s.accept request = s := by
  simp [accept, ho, List.erase_of_not_mem hr]
  cases s
  simp_all

theorem closeBody_after (now : Nat) (s : Session) :
    closeBody now { s with dispatching := s.dispatching + 1 } = s.keepOpen now := by
  simp [closeBody]

/-- The answer to a request and what keeps a request open afterwards leave a session as it is only if
neither has anything to do. -/
theorem agrees_keepOpen_accept_iff (hs : s.sid?.isSome) (now : Nat) (request : String) :
    Agrees s ((s.accept request).keepOpen now).session ↔
      s.outstanding = 0 ∧ request ∉ s.retrying ∧ (s.pending = none ∨ s.maySend = false) := by
  constructor
  · intro h
    have hfresh : request ∉ s.retrying := by
      have he : s.retrying.erase request = s.retrying :=
        (keepOpen_frame now (s.accept request)).retrying.symm.trans h.retrying
      intro hm
      have := List.length_erase_of_mem hm
      have := List.length_pos_of_mem hm
      rw [he] at *
      omega
    have hout := h.outstanding
    have hpend := h.pending
    rcases keepOpen_cases now (s.accept request) with ⟨hc, hk⟩ | ⟨-, hp, hk⟩ | ⟨_, -, -, hp, hk⟩
    · rw [hk] at hout
      have hstream : s.stream ≠ none := by
        rintro hn
        simp [sid?, hn] at hs
      simp only [accept] at hc hout
      have := hc.resolve_left hstream
      omega
    · rcases flush_cases now (s.accept request) with ⟨hm, hf⟩ | ⟨_, body, -, -, hb, hf⟩
      · rw [hk, hf] at hout
        have ho : s.outstanding = 0 := by
          simp only [accept] at hout
          omega
        rw [accept_eq_self ho hfresh] at hm
        exact ⟨ho, hfresh, hm.symm⟩
      · rw [hk, hf] at hpend
        simp only [accept] at hb
        simp [hb, stamp, cleared] at hpend
    · rw [hk] at hout
      have ho : s.outstanding = 0 := by
        simp only [accept] at hout
        omega
      exact ⟨ho, hfresh, .inl hp⟩
  · rintro ⟨ho, hr, hp⟩
    rw [accept_eq_self ho hr]
    rcases keepOpen_cases now s with ⟨-, hk⟩ | ⟨-, hs, hk⟩ | ⟨_, -, -, -, hk⟩
    · exact hk ▸ .refl s
    · rcases flush_cases now s with ⟨-, hf⟩ | ⟨_, body, hm, -, hb, -⟩
      · rw [hk, hf]
        exact .refl s
      · simp [hb, hm] at hp
    · exact hk ▸ .refl s

end Session

namespace Traffic

/-! ## Replies with what follows -/

def Stage.stanzas (g : Stage) : List Element :=
  match g.input with
  | .openBody body => if g.before.active && !Session.isTerminal body then body.elements else []
  | _ => []

/-- A reply with all that follows from it of itself: the body that it may leave is opened and closed. -/
def settle (now k : Nat) (r : Reply) (t : Traffic) : List (Nat × Move) :=
  [(now, .reply k r), (now, .openBody t.arrived.length), (now, .closeBody t.opened.length)]

/-- A reply and what follows from it change nothing of the session, and nothing is announced or
handed out. -/
structure Undisturbed (now k : Nat) (r : Reply) (t : Traffic) : Prop where
  agrees : Agrees t.session (t.run (t.settle now k r)).session
  notices : (stages (t.settle now k r) t).flatMap (·.outcome.notices) = []
  stanzas : (stages (t.settle now k r) t).flatMap Stage.stanzas = []

/-- A request of an earlier session has no reply yet. -/
structure Late (k : Nat) (q : Handed) (t : Traffic) : Prop where
  place : t.unanswered[k]? = some q
  session : q.session < t.count

variable {t : Traffic} {now k : Nat} {q : Handed} {r : Reply} {body : Element}

theorem step_reply (hq : t.unanswered[k]? = some q) (now : Nat) (r : Reply) :
    t.step now (.reply k r) = (t.consume (.reply k r)).act now (.answer q.text r) :=
  step_some (by simp [input?, hq]) now

theorem step_openBody (hb : t.arrived[k]? = some body) (now : Nat) :
    t.step now (.openBody k) = (t.consume (.openBody k)).act now (.openBody body) :=
  step_some (by simp [input?, hb]) now

theorem settle_of_carried?_none (hq : t.unanswered[k]? = some q) (hc : t.session.carried? r = none)
    (now : Nat) :
    (t.run (t.settle now k r)).session = (t.session.answer now q.text r).session ∧
      stages (t.settle now k r) t = [⟨t.session, now, .answer q.text r⟩] := by
  have hi : t.input? (.reply k r) = some (.answer q.text r) := by simp [input?, hq]
  obtain ⟨t₁, h₁⟩ : ∃ t₁, t₁ = t.step now (.reply k r) := ⟨_, rfl⟩
  have ha : t₁.arrived = t.arrived := by simp [h₁, step_reply hq, act, consume, hc]
  have ho : t₁.opened = t.opened := by simp [h₁, step_reply hq, act, consume]
  have hopen : t₁.input? (.openBody t.arrived.length) = none := by simp [input?, ha]
  have hclose : t₁.input? (.closeBody t.opened.length) = none := by simp [input?, ho]
  constructor
  · rw [settle, run_cons, run_cons, run_cons, run_nil, ← h₁, step_none hopen, step_none hclose, h₁,
      step_reply hq]
    simp [act, Session.step]
  · simp [settle, stages, hi, ← h₁, hopen, step_none hopen, hclose]

theorem settle_of_carried? (hq : t.unanswered[k]? = some q) (hc : t.session.carried? r = some body)
    (now : Nat) :
    let s₁ := t.session.accept q.text
    let s₂ := (s₁.openBody body).session
    let s₃ := if Session.isTerminal body then s₂ else (s₂.closeBody now).session
    (t.run (t.settle now k r)).session = s₃ ∧
      stages (t.settle now k r) t =
        [⟨t.session, now, .answer q.text r⟩, ⟨s₁, now, .openBody body⟩] ++
          if Session.isTerminal body then [] else [⟨s₂, now, .closeBody⟩] := by
  intro s₁ s₂ s₃
  have hact := Session.active_of_carried? hc
  have hans := Session.answer_body hact (Session.reading_of_carried? hc) now q.text
  have hi : t.input? (.reply k r) = some (.answer q.text r) := by simp [input?, hq]
  obtain ⟨t₁, h₁⟩ : ∃ t₁, t₁ = t.step now (.reply k r) := ⟨_, rfl⟩
  have hs₁ : t₁.session = s₁ := by simp [h₁, step_reply hq, act, Session.step, hans, s₁]
  have ha₁ : t₁.arrived = t.arrived ++ [body] := by simp [h₁, step_reply hq, act, consume, hc]
  have ho₁ : t₁.opened = t.opened := by simp [h₁, step_reply hq, act, consume]
  have hb : t₁.arrived[t.arrived.length]? = some body := by simp [ha₁]
  have hi₁ : t₁.input? (.openBody t.arrived.length) = some (.openBody body) := by simp [input?, hb]
  obtain ⟨t₂, h₂⟩ : ∃ t₂, t₂ = t₁.step now (.openBody t.arrived.length) := ⟨_, rfl⟩
  have hs₂ : t₂.session = s₂ := by simp [h₂, step_openBody hb, act, Session.step, hs₁, s₂]
  have hands : t₁.handsOut body = !Session.isTerminal body := by
    simp [handsOut, hs₁, s₁, Session.accept, hact]
  have ho₂ : t₂.opened = t.opened ++ if Session.isTerminal body then [] else [body] := by
    cases ht : Session.isTerminal body <;>
      simp [h₂, step_openBody hb, act, consume, hb, ho₁, hands, ht, Option.filter]
  cases ht : Session.isTerminal body with
  | true =>
    have hclose : t₂.input? (.closeBody t.opened.length) = none := by simp [input?, ho₂, ht]
    constructor
    · rw [settle, run_cons, run_cons, run_cons, run_nil, ← h₁, ← h₂, step_none hclose, hs₂]
      simp [s₃, ht]
    · simp [settle, stages, hi, ← h₁, hi₁, hs₁, ← h₂, hclose]
  | false =>
    have hclose : t₂.input? (.closeBody t.opened.length) = some .closeBody := by
      simp [input?, ho₂, ht]
    constructor
    · rw [settle, run_cons, run_cons, run_cons, run_nil, ← h₁, ← h₂, step_some hclose]
      simp [act, Session.step, hs₂, s₃, ht]
    · simp [settle, stages, hi, ← h₁, hi₁, hs₁, ← h₂, hclose, hs₂]

/-! ## Replies that disturb -/

theorem undisturbed_of_inactive (hq : t.unanswered[k]? = some q) (ha : t.session.active = false) :
    t.Undisturbed now k r := by
  have hc : t.session.carried? r = none := by simp [Session.carried?_eq, ha]
  have hans := Session.answer_inactive ha now q.text r
  obtain ⟨hs, hg⟩ := settle_of_carried?_none hq hc now
  constructor
  · rw [hs, hans]
    exact .refl _
  · simp [hg, Stage.outcome, Session.step, hans]
  · simp [hg, Stage.stanzas]

/-- A reply without a body is an error to an active session, or its end. -/
theorem not_undisturbed_of_no_body (hq : t.unanswered[k]? = some q) (ha : t.session.active)
    (hr : r.reading.body? = none) : ¬ t.Undisturbed now k r := by
  have hc : t.session.carried? r = none := by simp [Session.carried?_eq, hr]
  obtain ⟨hs, -⟩ := settle_of_carried?_none hq hc now
  intro h
  have hagrees := h.agrees
  have hans := Session.answered now q.text r t.session
  rw [hs] at hagrees
  generalize t.session.answer now q.text r = o at hagrees hans
  cases hans with
  | ignored hn => simp [ha] at hn
  | accepted _ body hb => simp [hb, Reading.body?] at hr
  | repeated => exact absurd hagrees.errors (by simp [Session.failed])
  | gone => exact absurd hagrees.active (by simp [ha])
  | exhausted => exact absurd hagrees.active (by simp [ha])

theorem not_undisturbed_of_terminal (hq : t.unanswered[k]? = some q)
    (hc : t.session.carried? r = some body) (ht : Session.isTerminal body) :
    ¬ t.Undisturbed now k r := by
  obtain ⟨hs, -⟩ := settle_of_carried? hq hc now
  have ha := Session.active_of_carried? hc
  intro h
  have hactive := h.agrees.active
  rw [hs, if_pos ht, Session.openBody_terminal (s := t.session.accept q.text) ha ht] at hactive
  simp [ha] at hactive

theorem not_undisturbed_of_unset (hq : t.unanswered[k]? = some q)
    (hc : t.session.carried? r = some body) (ht : Session.isTerminal body = false)
    (hst : t.session.stream.isSome) (hsid : t.session.sid? = none) : ¬ t.Undisturbed now k r := by
  obtain ⟨-, hg⟩ := settle_of_carried? hq hc now
  obtain ⟨stream, hstream⟩ := Option.isSome_iff_exists.1 hst
  have ha := Session.active_of_carried? hc
  have hopen := Session.openBody_establish (s := t.session.accept q.text) ha ht hstream hsid
  intro h
  have hnotices := h.notices
  simp [hg, Stage.outcome, Session.step, hopen] at hnotices

/-- A body that neither ends the session nor gives it its identifier is handed out, and what is pending may go out
afterwards. -/
theorem undisturbed_iff_of_further (hq : t.unanswered[k]? = some q)
    (hc : t.session.carried? r = some body) (ht : Session.isTerminal body = false)
    (hset : t.session.sid?.isSome) : t.Undisturbed now k r ↔ t.session.Unmoved q.text body := by
  obtain ⟨hs, hg⟩ := settle_of_carried? hq hc now
  have ha := Session.active_of_carried? hc
  have hans := Session.answer_body ha (Session.reading_of_carried? hc) now q.text
  have hopen := Session.openBody_further (s := t.session.accept q.text) ha ht (.inr hset)
  have hrun : (t.run (t.settle now k r)).session =
      ((t.session.accept q.text).keepOpen now).session := by
    rw [hs, hopen]
    simp [ht, Session.closeBody_after]
  have hiff := Session.agrees_keepOpen_accept_iff hset now q.text
  constructor
  · intro h
    obtain ⟨hidle, hfresh, hheld⟩ := hiff.1 (hrun ▸ h.agrees)
    have hempty : body.elements = [] := by
      simpa [hg, Stage.stanzas, Session.accept, ha, ht] using h.stanzas
    exact ⟨ht, hempty, hset, hidle, hfresh, hheld⟩
  · intro h
    refine ⟨hrun ▸ hiff.2 ⟨h.idle, h.fresh, h.held⟩, ?_, ?_⟩
    · simp [hg, Stage.outcome, Session.step, hans, hopen, ht, Session.closeBody_after]
    · simp [hg, Stage.stanzas, ht, h.empty]

theorem undisturbed_iff_of_body (hq : t.unanswered[k]? = some q) (hst : t.session.stream.isSome)
    (hc : t.session.carried? r = some body) :
    t.Undisturbed now k r ↔ t.session.Unmoved q.text body := by
  cases ht : Session.isTerminal body with
  | true =>
    refine iff_of_false (not_undisturbed_of_terminal hq hc ht) fun h => ?_
    have hterminal := h.terminal
    simp [ht] at hterminal
  | false =>
    cases hsid : t.session.sid? with
    | none =>
      refine iff_of_false (not_undisturbed_of_unset hq hc ht hst hsid) fun h => ?_
      have hestablished := h.established
      simp [hsid] at hestablished
    | some sid => exact undisturbed_iff_of_further hq hc ht (by simp [hsid])

theorem undisturbed_iff (hq : t.unanswered[k]? = some q) (hg : t.session.Grounded) :
    t.Undisturbed now k r ↔
      t.session.active = false ∨ ∃ body, r.reading = .body body ∧ t.session.Unmoved q.text body := by
  cases ha : t.session.active with
  | false => simpa using undisturbed_of_inactive hq ha
  | true =>
    cases hr : r.reading with
    | body body =>
      have hc : t.session.carried? r = some body := by
        simp [Session.carried?_eq, ha, hr, Reading.body?]
      simpa using undisturbed_iff_of_body hq (hg ha) hc
    | gone content => simpa using not_undisturbed_of_no_body hq ha (by simp [hr, Reading.body?])
    | bad reason => simpa using not_undisturbed_of_no_body hq ha (by simp [hr, Reading.body?])

/-- **A late reply** leaves the session alone exactly when the session is not active or unmoved by it:
that the request was handed over in an earlier session does not matter. -/
theorem undisturbed_iff_of_late (settings : Option Settings) (timings : Timings)
    (ms : List (Nat × Move)) (h : ((start settings timings).run ms).Late k q) (now : Nat) (r : Reply) :
    let t := (start settings timings).run ms
    t.Undisturbed now k r ↔
      t.session.active = false ∨ ∃ body, r.reading = .body body ∧ t.session.Unmoved q.text body :=
  undisturbed_iff h.place (grounded_run settings timings ms)

/-- A session is begun and ended, and another is begun; the reply to the first request ends it. -/
theorem not_undisturbed_by_late_404 :
    let settings : Settings := { httpBase := "http://localhost/", hostName := "localhost" }
    let t := (start (some settings) {}).run
      [(0, .call (.connect 0)), (0, .call .disconnect), (0, .call (.connect 10))]
    let q : Handed := ⟨1, (Body.sessionCreation settings 1).text⟩
    t.Late 0 q ∧ t.session.active ∧ ¬ t.Undisturbed 0 0 (.response 404 "") := by
  intro settings t q
  have hlate : t.Late 0 q := ⟨by rfl, by decide⟩
  refine ⟨hlate, by rfl, ?_⟩
  intro h
  rcases (undisturbed_iff_of_late (some settings) {} _ hlate 0 (.response 404 "")).1 h with
    hinactive | ⟨body, hbody, -⟩
  · cases hinactive
  · cases hbody

end Traffic

end XmppBosh.Bosh
