import XmppBosh.Proofs.Bosh.Naming

/-!
# What a session announces

The server gives a session its identifier with a body, and the session announces that it is connected.
It does so with every body that it opens before it has an identifier, be one in the body or not.

* `Announced`, `step_announced` : what a step announces, and what has become of the session then;
* `Session.greets` : a body is opened before the session has an identifier; `count_connected_step` : with
  exactly these a step announces that the session is connected, once each;
* `Input.sid?`, `sid?_of_greets` : the session has the identifier in such a body then, or still none;
* `Stage.Nameless` : there is none in it;
* `Session.vacancy`, `vacancy_step` : a session gets one identifier at most;
* `connected_once_iff` : a session announces that it is connected only when it gets its identifier, and
  only once, exactly if it opens no nameless body.
-/

namespace XmppBosh.Bosh

/-- The identifier in a body that is opened. -/
def Input.sid? : Input → Option String
  | .openBody body => body.attr? "sid"
  | _ => none

namespace Session

variable {s : Session} {i : Input} {now : Nat}

/-! ## One step -/

/-- Whether an input is a body that is opened before the session has an identifier. -/
def greets (i : Input) (s : Session) : Bool :=
  match i with
  | .openBody body => s.active && !isTerminal body && s.sid?.isNone
  | _ => false

inductive Announced (i : Input) (s : Session) (o : Outcome) : Prop
  | nothing (notices : o.notices = []) (greets : s.greets i = false)
  /-- The session has opened a body before it had an identifier. -/
  | connected (notices : o.notices = [.connected]) (greets : s.greets i) (active : o.session.active)
    (sid : o.session.sid? = i.sid?)
  /-- A request is to be repeated. -/
  | waiting (attempt delay : Nat) (notices : o.notices = [.waitingForRetry attempt delay])
    (greets : s.greets i = false)
  /-- The session has ended. -/
  | ended (reasons : List String) (reason : String)
    (notices : o.notices = reasons.map .error ++ [.disconnected reason]) (greets : s.greets i = false)
    (active : o.session.active = false) (sid : o.session.sid? = none)

theorem notices_connect (now start : Nat) (s : Session) : (s.connect now start).notices = [] := by
  have hc := started now start s
  generalize s.connect now start = o at hc ⊢
  cases hc <;> simp

theorem notices_resume (now : Nat) (stream : Stream) (s : Session) : (s.resume now stream).notices = [] := by
  simp [resume]

theorem notices_fire (now : Nat) (a : Alarm) (s : Session) : (s.fire now a).notices = [] := by
  cases a <;> simp only [fire] <;> split <;> simp

theorem answer_announced (now : Nat) (request : String) (r : Reply) (s : Session) :
    Announced (.answer request r) s (s.answer now request r) := by
  have ha := answered now request r s
  generalize s.answer now request r = o at ha ⊢
  cases ha with
  | ignored | accepted => exact .nothing rfl rfl
  | repeated => exact .waiting _ _ rfl rfl
  | gone | exhausted => exact .ended [_] _ rfl rfl rfl (sid?_giveUp ..)

theorem openBody_announced (hg : s.Grounded) (body : Xml.Element) :
    Announced (.openBody body) s (s.openBody body) := by
  have ho := opened body s
  generalize s.openBody body = o at ho ⊢
  cases ho with
  | ignored ha => exact .nothing rfl (by simp [greets, ha])
  | terminal ha ht => exact .ended [] _ rfl (by simp [greets, ht]) rfl (sid?_ended s)
  | establish ha ht stream hs hn => exact .connected rfl (by simp [greets, ha, ht, hn]) ha rfl
  | further ha ht hset =>
    have hstream := hg ha
    have hsid : s.sid?.isSome := hset.resolve_left fun hnone => by simp [hnone] at hstream
    exact .nothing rfl (by simp [greets, hsid])

/-- **What a step announces.** -/
theorem step_announced (hg : s.Grounded) (now : Nat) (i : Input) : Announced i s (s.step now i) := by
  cases i with
  | connect start => exact .nothing (notices_connect now start s) rfl
  | disconnect => exact .ended [] _ rfl rfl rfl (sid?_disconnect now s)
  | send stanza => exact .nothing (notices_flush now _) rfl
  | flush => exact .nothing (notices_flush now s) rfl
  | restart | setSettings | setTimings => exact .nothing rfl rfl
  | pause => exact .nothing (notices_pause now s) rfl
  | resume stream => exact .nothing (notices_resume now stream s) rfl
  | answer request r => exact answer_announced now request r s
  | openBody body => exact openBody_announced hg body
  | closeBody => exact .nothing (notices_keepOpen now _) rfl
  | fire alarm => exact .nothing (notices_fire now alarm s) rfl

/-- A step announces that the session is connected exactly with a body that is opened before the session
has an identifier. -/
theorem count_connected_step (hg : s.Grounded) (now : Nat) (i : Input) :
    (s.step now i).notices.count .connected = (s.greets i).toNat := by
  cases step_announced hg now i with
  | nothing notices greets => simp [notices, greets]
  | connected notices greets => simp [notices, greets]
  | waiting _ _ notices greets => simp [notices, greets]
  | ended reasons _ notices greets => simp [notices, greets, List.count_eq_zero]

/-- A session has the identifier in such a body then, or still none. -/
theorem sid?_of_greets (hg : s.Grounded) (h : s.greets i) (now : Nat) :
    s.active ∧ s.sid? = none ∧ (s.step now i).session.active ∧ (s.step now i).session.sid? = i.sid? := by
  have hbefore : s.active ∧ s.sid? = none := by
    cases i with
    | openBody body =>
      simp only [greets, Bool.and_eq_true, Option.isNone_iff_eq_none] at h
      exact ⟨h.1.1, h.2⟩
    | _ => cases h
  cases step_announced hg now i with
  | connected _ _ active sid => exact ⟨hbefore.1, hbefore.2, active, sid⟩
  | nothing _ greets | waiting _ _ _ greets | ended _ _ _ greets => simp [greets] at h

/-- What becomes of a session with anything else that begins none. -/
theorem sid?_of_not_greets (hb : s.begins i = false) (h : s.greets i = false) (now : Nat) :
    (s.step now i).session.active = s.active ∧ (s.step now i).session.sid? = s.sid? ∨
      (s.step now i).session.active = false ∧ (s.step now i).session.sid? = none := by
  cases step_course hb now with
  | keep active sid => exact .inl ⟨active, sid⟩
  | stop active sid => exact .inr ⟨active, sid⟩
  | establish body input terminal before _ unset => simp [greets, input, terminal, before, unset] at h

/-! ## Room for an identifier -/

/-- How many identifiers the session may still get. -/
def vacancy (s : Session) : Nat := if s.active ∧ s.sid? = none then 1 else 0

end Session

namespace Traffic

open Session

variable {t : Traffic} {gs : List Stage} {s : Session} {i : Input} {now : Nat}

def Stage.Nameless (g : Stage) : Prop := g.before.greets g.input ∧ g.input.sid? = none

instance (g : Stage) : Decidable g.Nameless := inferInstanceAs (Decidable (_ ∧ _))

theorem establishes_iff (hg : s.Grounded) (hb : s.begins i = false) :
    (Stage.mk s now i).Establishes ↔ s.greets i ∧ i.sid?.isSome := by
  rw [Stage.Establishes, Stage.outcome]
  cases h : s.greets i with
  | true =>
    obtain ⟨-, hnone, -, hsid⟩ := sid?_of_greets hg h now
    simp [hnone, hsid]
  | false =>
    rcases sid?_of_not_greets hb h now with ⟨-, hsid⟩ | ⟨-, hsid⟩
    · rw [hsid]
      cases s.sid? <;> simp
    · simp [hsid]

/-- **A session gets one identifier at most.** -/
theorem vacancy_step (hg : s.Grounded) (hb : s.begins i = false) (now : Nat) :
    (s.step now i).session.vacancy + (if (Stage.mk s now i).Establishes then 1 else 0) ≤ s.vacancy := by
  cases h : s.greets i with
  | true =>
    obtain ⟨hactive, hnone, -, hsid⟩ := sid?_of_greets hg h now
    have hbefore : s.vacancy = 1 := by simp [vacancy, hactive, hnone]
    rw [hbefore]
    cases hi : i.sid? with
    | some sid => simp [vacancy, hsid, hi, establishes_iff hg hb, h]
    | none =>
      simp only [establishes_iff hg hb, h, hi, vacancy]
      split <;> simp
  | false =>
    have hnot : ¬ (Stage.mk s now i).Establishes := by simp [establishes_iff hg hb, h]
    rw [if_neg hnot, Nat.add_zero]
    rcases sid?_of_not_greets hb h now with ⟨hactive, hsid⟩ | ⟨hactive, -⟩
    · simp [vacancy, hactive, hsid]
    · simp [vacancy, hactive]

/-! ## A session up to the next one -/

/-- What a session has announced since it was begun. -/
structure Welcomed (gs : List Stage) (s : Session) : Prop where
  grounded : s.Grounded
  room : gs.countP (·.Establishes) + s.vacancy ≤ 1
  greeted : ∀ g ∈ gs, (g.Establishes ↔ g.before.greets g.input ∧ g.input.sid?.isSome) ∧
    g.outcome.notices.count .connected = (g.before.greets g.input).toNat

theorem Welcomed.step (h : Welcomed gs s) (hb : s.begins i = false) :
    Welcomed (gs ++ [⟨s, now, i⟩]) (s.step now i).session where
  grounded := h.grounded.step now i
  room := by
    have hstep := vacancy_step h.grounded hb now
    have hroom := h.room
    rw [List.countP_append, List.countP_singleton]
    simp only [decide_eq_true_eq]
    omega
  greeted := by
    rw [List.forall_mem_append, List.forall_mem_singleton]
    exact ⟨h.greeted, establishes_iff h.grounded hb, count_connected_step h.grounded now i⟩

theorem Welcomed.connect {start : Nat} (hg : s.Grounded) (hb : s.begins (.connect start)) (now : Nat) :
    Welcomed [⟨s, now, .connect start⟩] (s.connect now start).session := by
  have hnot : ¬ (Stage.mk s now (.connect start)).Establishes := by
    rintro ⟨-, hsome⟩
    rw [Stage.outcome, Session.step, sid?_connect hb now] at hsome
    cases hsome
  refine ⟨hg.step now (.connect start), ?_, ?_⟩
  · rw [List.countP_singleton, if_neg (by simpa using hnot)]
    unfold vacancy
    split <;> simp
  · rw [List.forall_mem_singleton]
    exact ⟨iff_of_false hnot (by simp [greets]), count_connected_step hg now (.connect start)⟩

def connections (gs : List Stage) : Nat := (gs.flatMap (·.outcome.notices)).count .connected

/-- The announcements are those with an identifier and those without one. -/
theorem Welcomed.connections (h : Welcomed gs s) :
    connections gs = gs.countP (·.Establishes) + gs.countP (·.Nameless) := by
  have hgreeted := h.greeted
  clear h
  induction gs with
  | nil => rfl
  | cons g gs ih =>
    obtain ⟨⟨hestablishes, hcount⟩, hgs⟩ := List.forall_mem_cons.1 hgreeted
    have hstage : g.outcome.notices.count .connected =
        (if g.Establishes then 1 else 0) + (if g.Nameless then 1 else 0) := by
      rw [hcount]
      simp only [hestablishes, Stage.Nameless, Option.isSome_iff_ne_none]
      by_cases hgreets : g.before.greets g.input <;> by_cases hsid : g.input.sid? = none <;>
        simp [hgreets, hsid]
    have hsum := ih hgs
    unfold Traffic.connections at hsum ⊢
    rw [List.flatMap_cons, List.count_append, hstage, hsum, List.countP_cons, List.countP_cons]
    simp only [decide_eq_true_eq]
    omega

/-- **Exactly a nameless body is announced without an identifier.** In a session that was asked for, up to
the next one, it is announced that the session is connected with every body that it opens before it has
an identifier. It gets one at most, and with the bodies that have none the announcement is repeated. So
it is announced only together with the identifier, and only once, if and only if no such body is opened. -/
theorem connected_once_iff (settings : Option Settings) (timings : Timings)
    (before after : List (Nat × Move)) (now start : Nat)
    (hb : ((Traffic.start settings timings).run before).session.begins (.connect start))
    (hu : ∀ g ∈ stages after (((Traffic.start settings timings).run before).step now
      (.call (.connect start))), g.before.begins g.input = false) :
    let t := (Traffic.start settings timings).run before
    let gs := stages ((now, .call (.connect start)) :: after) t
    (∀ g ∈ gs, .connected ∈ g.outcome.notices ↔ g.Establishes ∨ g.Nameless) ∧
      (∀ g ∈ gs, g.Nameless → ¬ g.Establishes) ∧ gs.countP (·.Establishes) ≤ 1 ∧
      connections gs = gs.countP (·.Establishes) + gs.countP (·.Nameless) ∧
      ((∀ g ∈ gs, .connected ∈ g.outcome.notices → g.Establishes) ∧ connections gs ≤ 1 ↔
        ∀ g ∈ gs, ¬ g.Nameless) := by
  intro t gs
  have hg : t.session.Grounded := grounded_run settings timings before
  have hwelcomed : Welcomed gs ((t.step now (.call (.connect start))).run after).session := by
    have hbegun : Welcomed [⟨t.session, now, .connect start⟩]
        (t.step now (.call (.connect start))).session := .connect hg hb now
    exact history_induction (P := Welcomed) (fun gs s now i h hk => h.step hk) hu hbegun
  have hannounced : ∀ g ∈ gs, .connected ∈ g.outcome.notices ↔ g.Establishes ∨ g.Nameless := by
    intro g hmem
    obtain ⟨hestablishes, hcount⟩ := hwelcomed.greeted g hmem
    rw [← List.count_pos_iff, hcount, hestablishes, Stage.Nameless]
    cases g.before.greets g.input <;> cases g.input.sid? <;> simp
  have hnameless : ∀ g ∈ gs, g.Nameless → ¬ g.Establishes := by
    rintro g hmem ⟨-, hnone⟩ hestablishes
    have hsome := ((hwelcomed.greeted g hmem).1.1 hestablishes).2
    simp [hnone] at hsome
  have honce : gs.countP (·.Establishes) ≤ 1 := Nat.le_of_add_right_le hwelcomed.room
  refine ⟨hannounced, hnameless, honce, hwelcomed.connections, ?_, ?_⟩
  · rintro ⟨honly, -⟩ g hmem hn
    exact hnameless g hmem hn (honly g hmem ((hannounced g hmem).2 (.inr hn)))
  · intro hnone
    constructor
    · intro g hmem hconnected
      exact ((hannounced g hmem).1 hconnected).resolve_right (hnone g hmem)
    · have hzero : gs.countP (·.Nameless) = 0 := by simpa [List.countP_eq_zero] using hnone
      rw [hwelcomed.connections, hzero]
      exact honce

/-- The server answers twice without an identifier. It is announced twice that the session is connected,
and it has none. -/
theorem connected_twice_of_nameless :
    let settings : Settings := { httpBase := "http://localhost/", hostName := "localhost" }
    let content := "<body xmlns='http://jabber.org/protocol/httpbind'/>"
    let after : List (Nat × Move) := [(0, .reply 0 (.response 200 content)), (0, .openBody 0),
      (0, .closeBody 0), (300, .fire 1), (300, .reply 0 (.response 200 content)), (300, .openBody 0)]
    let t := Traffic.start (some settings) {}
    let gs := stages ((0, .call (.connect 0)) :: after) t
    t.session.begins (.connect 0) ∧
      (∀ g ∈ stages after (t.step 0 (.call (.connect 0))), g.before.begins g.input = false) ∧
      connections gs = 2 ∧ gs.countP (·.Establishes) = 0 ∧
      ¬ ∀ g ∈ gs, .connected ∈ g.outcome.notices → g.Establishes := by
  intro settings content after t gs
  have hb : t.session.begins (.connect 0) := by decide
  have hu : ∀ g ∈ stages after (t.step 0 (.call (.connect 0))), g.before.begins g.input = false := by
    decide +kernel
  have htwice : connections gs = 2 := by decide +kernel
  have hnone : gs.countP (·.Establishes) = 0 := by decide +kernel
  refine ⟨hb, hu, htwice, hnone, ?_⟩
  intro honly
  obtain ⟨hannounced, hnameless, -, hrest⟩ := connected_once_iff (some settings) {} [] after 0 0 hb hu
  have hsum : connections gs = gs.countP (·.Establishes) + gs.countP (·.Nameless) := hrest.1
  have htwo : gs.countP (·.Nameless) = 2 := by omega
  obtain ⟨g, hmem, hn⟩ := List.countP_pos_iff.1 (Nat.lt_of_lt_of_eq Nat.two_pos htwo.symm)
  have hn : g.Nameless := of_decide_eq_true hn
  exact hnameless g hmem hn (honly g hmem ((hannounced g hmem).2 (.inr hn)))

end Traffic

end XmppBosh.Bosh
