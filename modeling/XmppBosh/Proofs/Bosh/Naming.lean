import XmppBosh.Proofs.Bosh.Drafts

/-!
# Which bodies name their session

A body carries the identifier that the session had when the body was begun. One that was begun before
the server gave the session an identifier goes out without it, however late this is.

* `Stage.Establishes` : a step that gives the session its identifier;
* `Overtaken` : a body was pending then, and has not gone out since;
* `Named`, `Named.step` : exactly such a body lacks the identifier;
* `named_iff_of_lasts` : so this is exactly when a request of a session does not name it;
* `unnamed_of_overtaken` : a stanza that waits for the first reply goes out like this.
-/

namespace XmppBosh.Bosh

open Xml

namespace Traffic

def Stage.Establishes (g : Stage) : Prop := g.before.sid? = none ∧ g.outcome.session.sid?.isSome

instance (g : Stage) : Decidable g.Establishes := inferInstanceAs (Decidable (_ ∧ _))

/-- A body was pending when the session got its identifier, and none has gone out since. -/
def Overtaken (gs : List Stage) : Prop :=
  Since (fun g => g.Establishes ∧ g.before.pending.isSome) (fun g => g.bodies = []) gs

end Traffic

/-- Unless the pending body has been overtaken, it carries the identifier of the session, and so does
the one that would be begun next. -/
structure Named (overtaken : Prop) (s : Session) : Prop where
  held : overtaken → s.pending.isSome ∧ s.sid?.isSome
  stale : overtaken → s.draft.attr? "sid" = none
  fresh : ¬ overtaken → s.draft.attr? "sid" = s.sid?

namespace Named

open Session Traffic

variable {overtaken : Prop} {s t : Session} {o : Outcome} {body : Body} {i : Input} {now start : Nat}

theorem sid_draft (hp : s.pending = none) : s.draft.attr? "sid" = s.sid? := by
  cases hs : s.stream with
  | none =>
    have hdraft : s.draft = .unnumbered := by simp [draft, hp, hs]
    rw [hdraft, sid?, hs]
    rfl
  | some stream =>
    have hdraft : s.draft = .numbered (stream.rid + 1) stream.sid := by simp [draft, hp, hs]
    rw [hdraft, sid?, hs]
    exact congrArg Prod.snd (Body.heading_numbered (stream.rid + 1) stream.sid)

theorem of_pending_none (hp : s.pending = none) (h : ¬ overtaken) : Named overtaken s :=
  ⟨fun ho => absurd ho h, fun ho => absurd ho h, fun _ => sid_draft hp⟩

theorem of_same (h : Named overtaken s) (hp : t.pending = s.pending) (hs : t.sid? = s.sid?) :
    Named overtaken t := by
  have hdraft : t.draft.attr? "sid" = s.draft.attr? "sid" := by
    cases hb : s.pending with
    | none => rw [sid_draft (hp.trans hb), sid_draft hb, hs]
    | some body => rw [draft_of_pending (hp.trans hb), draft_of_pending hb]
  constructor
  · rw [hp, hs]
    exact h.held
  · rw [hdraft]
    exact h.stale
  · rw [hdraft, hs]
    exact h.fresh

/-- **A step that keeps the identifier** keeps a body overtaken until it goes out. -/
theorem drafted (h : Named overtaken s) (hd : Drafted body s o)
    (hb : body.attr? "sid" = s.draft.attr? "sid") (hs : o.session.sid? = s.sid?) :
    Named (overtaken ∧ o.posts = []) o.session := by
  cases hd with
  | kept posts pending rid =>
    simp only [posts, and_true]
    exact h.of_same pending hs
  | edited posts pending rid =>
    simp only [posts, and_true]
    constructor
    · intro ho
      exact ⟨by simp [pending], hs ▸ (h.held ho).2⟩
    · rw [draft_of_pending pending, hb]
      exact h.stale
    · rw [draft_of_pending pending, hb, hs]
      exact h.fresh
  | posted request posts text pending rid => exact of_pending_none pending (by simp [posts])

/-- **A step that gives the session its identifier** overtakes the pending body. -/
theorem establish (h : Named overtaken s) (hn : s.sid? = none) (ht : t.sid?.isSome)
    (hp : t.pending = s.pending) : Named s.pending.isSome t := by
  have hfresh : ¬ overtaken := by
    intro ho
    have hsid := (h.held ho).2
    simp [hn] at hsid
  cases hb : s.pending with
  | none => exact of_pending_none (hp.trans hb) (by simp)
  | some body =>
    have hbody : body.attr? "sid" = none := by
      rw [← draft_of_pending hb, h.fresh hfresh, hn]
    have hdraft := draft_of_pending (hp.trans hb)
    exact ⟨fun _ => ⟨by simp [hp, hb], ht⟩, fun _ => hdraft ▸ hbody, fun hf => absurd rfl hf⟩

theorem congr (h : Named overtaken s) {overtaken' : Prop} (he : overtaken ↔ overtaken') :
    Named overtaken' s := propext he ▸ h

theorem sid?_cases (hb : s.begins i = false) (ha : (s.step now i).session.active) :
    (s.step now i).session.sid? = s.sid? ∨
      s.sid? = none ∧ (s.step now i).session.sid?.isSome ∧
        (s.step now i).session.pending = s.pending ∧ (s.step now i).posts = [] := by
  cases step_course hb now with
  | keep _ sid => exact .inl sid
  | stop active => simp [active] at ha
  | establish body input _ _ _ unset sid =>
    subst input
    cases hsid : (s.step now (.openBody body)).session.sid? with
    | none => exact .inl unset.symm
    | some _ =>
      refine .inr ⟨unset, rfl, ?_⟩
      have ho := opened body s
      simp only [Session.step] at ha ⊢
      generalize s.openBody body = o at ho
      cases ho <;> exact ⟨rfl, rfl⟩

/-- **One step of a session that goes on.** -/
theorem step {gs : List Stage} (h : Named (Overtaken gs) s) (hs : s.settings.isSome)
    (hb : s.begins i = false) (ha : (s.step now i).session.active) :
    Named (Overtaken (gs ++ [⟨s, now, i⟩])) (s.step now i).session := by
  have hconcat : Overtaken (gs ++ [⟨s, now, i⟩]) ↔
      ((Stage.mk s now i).Establishes ∧ s.pending.isSome) ∨
        Overtaken gs ∧ (Stage.mk s now i).bodies = [] := since_concat
  -- The identifier stays, and it matters whether the body goes out, or it is given while nothing does.
  rcases sid?_cases hb ha with hsid | ⟨hnone, hsome, hpending, hposts⟩
  · have hnot : ¬ (Stage.mk s now i).Establishes := by
      rintro ⟨hnone, hsome⟩
      simp only [Stage.outcome, hsid] at hnone hsome
      simp [hnone] at hsome
    cases hr : i.isRetry with
    | true =>
      obtain ⟨hpending, -⟩ := step_kept_of_isRetry hr now s
      apply (h.of_same hpending hsid).congr
      rw [hconcat, Stage.bodies_retry hr]
      simp [hnot]
    | false =>
      have hbody : (s.edited i).attr? "sid" = s.draft.attr? "sid" :=
        congrArg Prod.snd (heading_edited i s)
      apply (h.drafted (step_drafted hs hb hr ha) hbody hsid).congr
      rw [hconcat, Stage.bodies_eq hr hb ha, List.map_eq_nil_iff]
      simp [hnot]
  · apply (h.establish hnone hsome hpending).congr
    have hnot : ¬ Overtaken gs := fun ho => by simpa [hnone] using (h.held ho).2
    rw [hconcat]
    simp [hnot, Stage.Establishes, Stage.outcome, hnone, hsome]

theorem begun (hb : s.begins (.connect start)) (now : Nat) :
    Named (Overtaken [⟨s, now, .connect start⟩]) (s.connect now start).session := by
  obtain ⟨settings, -, hd⟩ := begun_drafted hb now
  have hsid := sid?_connect hb now
  have hopening : Named False (s.opening settings start) := by
    refine ⟨False.elim, False.elim, fun _ => ?_⟩
    exact congrArg Prod.snd (Body.heading_sessionCreation settings (start + 1))
  have hnot : ¬ (Stage.mk s now (.connect start)).Establishes := by
    rintro ⟨-, hsome⟩
    rw [Stage.outcome, Session.step, hsid] at hsome
    cases hsome
  apply (hopening.drafted hd rfl hsid).congr
  rw [Overtaken, ← List.nil_append [Stage.mk s now (.connect start)], since_concat]
  simp [hnot, not_since_nil]

end Named

namespace Traffic

open Session

/-- **Exactly the bodies that are overtaken do not name their session.** Whatever a session hands over
anew once it has its identifier carries it, unless a body was pending when it got the identifier, has
not gone out since, and is the one that goes out now. The body that ends the session carries it
anyhow. -/
theorem named_iff_of_lasts (settings : Option Settings) (timings : Timings)
    (before after : List (Nat × Move)) (now start : Nat)
    (hb : ((Traffic.start settings timings).run before).session.begins (.connect start))
    (hl : ((Traffic.start settings timings).run before).Lasts ((now, .call (.connect start)) :: after)) :
    let t := (Traffic.start settings timings).run before
    let opened := (now, .call (.connect start)) :: after
    let s := (t.run opened).session
    ∀ now i sid, s.sid? = some sid → i.isRetry = false → i.isResume = false →
      ∀ q ∈ (s.step now i).posts, q.text = (s.outgoing i).text ∧
        ((s.outgoing i).attr? "sid" = some sid ↔
          ¬ (Overtaken (stages opened t) ∧ s.discards i = false)) ∧
        (Overtaken (stages opened t) → s.discards i = false → (s.outgoing i).attr? "sid" = none) := by
  intro t opened s now' i sid hsid hretry hresume q hq
  obtain ⟨hnamed, hs, ha⟩ : Named (Overtaken (stages opened t)) s ∧ s.settings.isSome ∧ s.active :=
    hl.connect_induction (P := fun gs s => Named (Overtaken gs) s) hb (.begun hb now)
      fun gs s now i h hs hbegins hactive => h.step hs hbegins hactive
  refine ⟨text_of_mem_posts hs hretry hq, ?_⟩
  cases hd : s.discards i with
  | true =>
    have hout : (s.outgoing i).attr? "sid" = some sid := by
      rw [outgoing_of_discards ha hd, Body.attr?_set, if_neg (by decide), ← hsid]
      exact Named.sid_draft rfl
    simp [hout]
  | false =>
    have hout : (s.outgoing i).attr? "sid" = s.draft.attr? "sid" := by
      rw [outgoing_of_not_discards (not_begins_of_active ha hresume) hd]
      exact congrArg Prod.snd (heading_edited i s)
    rw [hout]
    by_cases ho : Overtaken (stages opened t)
    · simp [ho, hnamed.stale ho]
    · simp [ho, hnamed.fresh ho, hsid]

/-- Two requests may be unanswered at first, so a second stanza waits for the first reply, which gives
the session its identifier. The body with that stanza goes out without it. -/
theorem unnamed_of_overtaken :
    let settings : Settings := { httpBase := "http://localhost/", hostName := "localhost" }
    let stanza : Element := { tag := { name := "message", ns := "jabber:client" } }
    let content := "<body xmlns='http://jabber.org/protocol/httpbind' sid='s'/>"
    let opened : List (Nat × Move) := [(0, .call (.connect 0)), (0, .call (.send stanza)),
      (0, .call (.send stanza)), (0, .reply 0 (.response 200 content)), (0, .openBody 0),
      (0, .closeBody 0)]
    let t := Traffic.start (some settings) {}
    let s := (t.run opened).session
    t.session.begins (.connect 0) ∧ t.Lasts opened ∧ s.sid? = some "s" ∧
      Overtaken (stages opened t) ∧ (s.step 0 .flush).posts.length = 1 ∧
      (s.outgoing .flush).attr? "sid" = none := by
  intro settings stanza content opened t s
  have hb : t.session.begins (.connect 0) := by decide
  have hl : t.Lasts opened := by decide +kernel
  have hsid : s.sid? = some "s" := by decide +kernel
  have hunnamed : (s.outgoing .flush).attr? "sid" = none := by decide +kernel
  have hlength : (s.step 0 .flush).posts.length = 1 := by decide +kernel
  obtain ⟨q, hq⟩ := List.exists_mem_of_length_pos (Nat.lt_of_lt_of_eq Nat.one_pos hlength.symm)
  obtain ⟨-, hiff, -⟩ := named_iff_of_lasts (some settings) {} [] _ 0 0 hb hl 0 .flush "s" hsid rfl rfl q hq
  have hovertaken : Overtaken (stages opened t) := by
    by_contra hn
    have hnamed : (s.outgoing .flush).attr? "sid" = some "s" := hiff.2 fun h => hn h.1
    rw [hunnamed] at hnamed
    cases hnamed
  exact ⟨hb, hl, hsid, hovertaken, hlength, hunnamed⟩

end Traffic

end XmppBosh.Bosh
