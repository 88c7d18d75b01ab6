import XmppBosh.Proofs.Bosh.Gathering
import XmppBosh.Proofs.Client.Unfolding

/-!
# Listeners that send while a body is handed out

A listener that hears of a session or of a stanza may answer it at once, and while the answer is handed in, others may
hear of it and send in their turn. Whether and what they send is up to them. None of this goes out before the whole
body has been handed out.

* `Deed.Gathers` : nothing is done with a session but handing in stanzas and asking for what is pending to go out;
  `Undergoes.gather` : then they wait;
* `HandsOut` : stanzas are handed out, and whatever listeners like is done meanwhile;
* `handsOut_of_gathers` : nobody can end the session by sending, so everything is handed out;
* `closed_of_pending` : what is pending at the end goes out or stays;
* `Command.isSend`, `exists_dispatch` : a program whose handlers only send is an example;
* `batched_of_body` : what becomes of a body and of the answers to it.
-/

namespace XmppBosh.Client

open Bosh (Session Notice Traffic Body Move)

/-- Whether a command hands in a stanza, or asks for what is pending to go out. -/
def Command.isSend : Command → Bool
  | .send _ | .flush => true
  | _ => false

namespace Deed

/-- Nothing is done with a session but handing in stanzas, and asking for what is pending to go out. -/
def Gathers (link : Nat) : Deed → Prop
  | .stepped l i _ => l = link → i = .flush ∨ ∃ e, i = .send e
  | _ => True

theorem Within.gathers {d : Deed} (h : d.Within fun i => i = .flush ∨ ∃ e, i = .send e) (link : Nat) :
    d.Gathers link := by
  cases d with
  | stepped l i o => exact fun _ => h
  | _ => trivial

def sent (link : Nat) : Deed → List Xml.Element
  | .stepped l (.send e) _ => if l = link then [e] else []
  | _ => []

end Deed

namespace World

variable {act : Act} {w w' w'' : World} {link : Nat} {s t : Session} {ds ds' : List Deed} {es left : List Xml.Element}

/-! ## Gathering -/

theorem isHandingOut_gather (hs : s.IsHandingOut) (sent : List Xml.Element) : (s.gather sent).IsHandingOut := by
  rw [Session.IsHandingOut, (Session.gather_frame sent s).dispatching]
  exact hs

theorem gather_append (sent sent' : List Xml.Element) (s : Session) :
    (s.gather sent).gather sent' = s.gather (sent ++ sent') := (List.foldl_append ..).symm

/-- **What is handed in waits** while a body is handed out, and nothing goes out. -/
theorem Undergoes.gather (h : Undergoes link s ds t) (hs : s.IsHandingOut) (hds : ∀ d ∈ ds, d.Gathers link) :
    t = s.gather (ds.flatMap (Deed.sent link)) ∧
      (ds.flatMap Deed.requests).filter (fun r => r.1 = link) = [] := by
  induction h with
  | done => exact ⟨rfl, rfl⟩
  | @steps s t i ds now rest ih =>
    rw [List.forall_mem_cons] at hds
    obtain ⟨hd, hds⟩ := hds
    rcases hd rfl with rfl | ⟨e, rfl⟩
    · have hstep : s.step now .flush = ⟨s, [], []⟩ := Session.flush_of_isHandingOut hs now
      rw [hstep] at ih
      obtain ⟨ht, hnone⟩ := ih hs hds
      exact ⟨ht, by rw [hstep]; exact hnone⟩
    · have hstep : s.step now (.send e) = ⟨s.gather [e], [], []⟩ := Session.send_of_isHandingOut hs now e
      rw [hstep] at ih
      obtain ⟨ht, hnone⟩ := ih (isHandingOut_gather hs [e]) hds
      refine ⟨ht.trans ?_, by rw [hstep]; exact hnone⟩
      rw [gather_append]
      simp [Deed.sent]
  | @other s t d ds hother rest ih =>
    rw [List.forall_mem_cons] at hds
    obtain ⟨ht, hnone⟩ := ih hs hds.2
    cases d with
    | stepped l i o =>
      have hl : l ≠ link := of_decide_eq_false hother
      have hsent : Deed.sent link (.stepped l i o) = [] := by
        cases i <;> simp [Deed.sent, hl]
      rw [List.flatMap_cons, List.flatMap_cons, List.filter_append, hnone, hsent]
      refine ⟨ht, ?_⟩
      simp [Deed.requests, hl]
    | began | called | returned | ended => exact ⟨ht, hnone⟩

/-! ## Handing out -/

/-- Stanzas are handed out one after the other, as long as the session is active, and this is done. These are left. -/
inductive HandsOut (link : Nat) : List Xml.Element → List Xml.Element → World → List Deed → World → Prop
  | done (w : World) : HandsOut link [] [] w [] w
  | next {e : Xml.Element} {es left : List Xml.Element} {w w' w'' : World} {ds ds' : List Deed}
      (active : w.isActive link) (announced : Announces (.link link .received) [.stanza e] w ds w')
      (rest : HandsOut link es left w' ds' w'') : HandsOut link (e :: es) left w (ds ++ ds') w''
  | stops {e : Xml.Element} {es : List Xml.Element} {w : World} (inactive : w.isActive link = false) :
      HandsOut link (e :: es) (e :: es) w [] w

theorem HandsOut.evolves (h : HandsOut link es left w ds w') : Evolves w ds w' := by
  induction h with
  | done w | stops => exact .quiet (.refl _)
  | next active announced rest ih => exact .trans (.announces (by simp) announced) ih

theorem handsOut_of_gathers (h : HandsOut link es left w ds w') (hs : w.session? link = some s)
    (hhanding : s.IsHandingOut) (hactive : s.active) (hds : ∀ d ∈ ds, d.Gathers link) : left = [] := by
  induction h generalizing s with
  | done => rfl
  | @stops e es w inactive =>
    rw [isActive, hs, Option.any_some, hactive] at inactive
    cases inactive
  | next active announced rest ih =>
    obtain ⟨hds, hds'⟩ := List.forall_mem_append.1 hds
    obtain ⟨t, ht, hundergoes⟩ := (Evolves.announces (by simp) announced).undergoes hs
    obtain ⟨rfl, -⟩ := hundergoes.gather hhanding hds
    refine ih ht (isHandingOut_gather hhanding _) ?_ hds'
    rw [(Session.gather_frame _ s).active]
    exact hactive

/-- A body is opened and handed out, and all that is handed in meanwhile waits. -/
theorem gathered_of_dispatch (hs : w.session? link = some s) (hactive : s.active) {body : Xml.Element}
    (hterminal : Session.isTerminal body = false) {w₁ w₂ : World}
    (hannounced : Announces (.link link .state) ((s.step w.now (.openBody body)).notices.map .notice)
      (w.follow link (s.step w.now (.openBody body))) ds w₁)
    (hhanded : HandsOut link body.elements left w₁ ds' w₂) (hgathers : ∀ d ∈ ds ++ ds', d.Gathers link) :
    left = [] ∧
      (w₂.exchanges.map Exchange.request).filter (fun r => r.1 = link) =
        (w.exchanges.map Exchange.request).filter (fun r => r.1 = link) ∧
      w₂.session? link =
        some ((s.step w.now (.openBody body)).session.gather ((ds ++ ds').flatMap (Deed.sent link))) := by
  obtain ⟨heffects, hdispatching, hopen, -, -⟩ := Session.openBody_of_not_terminal hactive hterminal
  have hhanding : (s.openBody body).session.IsHandingOut := by
    rw [Session.IsHandingOut, hdispatching]
    exact Nat.succ_pos _
  have hfollowed := session?_follow hs (s.step w.now (.openBody body)) link
  rw [if_pos rfl] at hfollowed
  obtain ⟨hgathers₁, hgathers₂⟩ := List.forall_mem_append.1 hgathers
  obtain ⟨t₁, ht₁, hundergoes₁⟩ := hannounced.cumulative (cumulative_undergoes link) _ hfollowed
  obtain ⟨t, ht, hundergoes⟩ := hhanded.evolves.undergoes ht₁
  obtain ⟨rfl, -⟩ := hundergoes₁.gather hhanding hgathers₁
  have hwaits := (hundergoes₁.append hundergoes).gather hhanding hgathers
  obtain ⟨rfl, hnone⟩ := hwaits
  refine ⟨handsOut_of_gathers hhanded ht₁ (isHandingOut_gather hhanding _) ?_ hgathers₂, ?_, ht⟩
  · rw [(Session.gather_frame _ _).active]
    exact hopen
  · have hrequests := ((Evolves.steps hs hannounced).trans hhanded.evolves).requests
    have hopening : Deed.requests (.stepped link (.openBody body) (s.step w.now (.openBody body))) = [] := by
      have hposts : (s.openBody body).posts = [] := by rw [Bosh.Outcome.posts, heffects]; rfl
      rw [Deed.requests, Session.step, hposts, List.map_nil]
    rw [hrequests, List.filter_append, List.cons_append, List.flatMap_cons, hopening, List.nil_append, hnone,
      List.append_nil]

/-! ## At the end -/

theorem stepSession_closeBody (hs : w.session? link = some s) (act : Act) :
    (w.stepSession act link .closeBody).session? link = some (s.closeBody w.now).session ∧
      (w.stepSession act link .closeBody).exchanges =
        w.exchanges ++ (s.closeBody w.now).posts.map fun r => { link, text := r.text } := by
  have hnotices : (s.closeBody w.now).notices = [] := Session.notices_keepOpen ..
  have hsession : (w.setSession link (s.closeBody w.now).session).session? link = some (s.closeBody w.now).session := by
    rw [session?_setSession (by simp [hs]), if_pos rfl]
  rw [stepSession_of_session act hs, Session.step]
  dsimp only
  rw [hnotices, List.foldl_nil]
  obtain ⟨queue, heffects⟩ := doEffects_eq link (s.closeBody w.now) (w.setSession link (s.closeBody w.now).session)
  rw [heffects]
  exact ⟨hsession, rfl⟩

/-- **What is pending** when a body has been handed out goes out, in one request, or it stays pending. -/
theorem closed_of_pending (hs : w.session? link = some s) (hstream : s.stream.isSome) (hactive : s.active)
    {others : Nat} (hd : s.dispatching = others + 1) {b : Body} (hb : s.pending = some b) (act : Act) :
    if others = 0 ∧ s.outstanding = 0 ∧ s.retrying = [] ∧ 1 ≤ s.maxRequests then
      (w.stepSession act link .closeBody).exchanges = w.exchanges ++ [{ link, text := b.text }] ∧
        (s.closeBody w.now).session.pending = none
    else (w.stepSession act link .closeBody).exchanges = w.exchanges ∧
      (s.closeBody w.now).session.pending = some b := by
  have hhanding : s.IsHandingOut := by
    rw [Session.IsHandingOut, hd]
    exact Nat.succ_pos _
  have hclose := Session.closeBody_of_pending hstream hb hhanding w.now
  have hiff := Session.mayClose_iff hactive hd
  rw [(stepSession_closeBody hs act).2]
  by_cases hmay : s.mayClose
  · rw [if_pos hmay] at hclose
    obtain ⟨⟨q, hq, htext⟩, hgone⟩ := hclose
    rw [if_pos (hiff.1 hmay), hq, List.map_singleton, htext]
    exact ⟨rfl, hgone⟩
  · rw [if_neg hmay] at hclose
    obtain ⟨hnothing, hwaits⟩ := hclose
    rw [if_neg (mt hiff.2 hmay), hnothing]
    exact ⟨List.append_nil _, hwaits⟩

/-! ## Handlers that only send -/

variable {q : Command → Prop} {p : Bosh.Input → Prop}

theorem acting_perform (hsend : ∀ e, p (.send e)) (hflush : p .flush) (hact : Acting (·.isSend) p act) :
    Acting (·.isSend) p (perform act) := by
  intro c hc w
  cases c with
  | send xml =>
    simp only [perform, performOnLink, withLink]
    split
    · exact .refl w
    · split
      · exact .refl w
      · exact proceeds_sendOn hact _ (hsend _) w
  | flush =>
    simp only [perform, performOnLink, withSession]
    split
    · exact .refl w
    · split
      · exact .refl w
      · exact proceeds_stepSession hact _ hflush w
  | _ => cases hc

/-- **Handlers inside handlers**, however deep, only send. -/
theorem acting_performWithin (hsend : ∀ e, p (.send e)) (hflush : p .flush) (depth : Nat) :
    Acting (·.isSend) p (performWithin depth) := by
  induction depth with
  | zero => exact fun _ _ w => .refl w
  | succ depth ih => exact acting_perform hsend hflush ih

theorem exists_handsOut (hact : Acting q p act) (hsend : ∀ e, p (.send e)) (link : Nat) (es : List Xml.Element)
    (hw : w.Disciplined q) :
    ∃ ds left, HandsOut link es left w ds (handOut act link es w) ∧ ∀ d ∈ ds, d.Within p := by
  induction es generalizing w with
  | nil => exact ⟨[], [], .done w, List.forall_mem_nil _⟩
  | cons e es ih =>
    by_cases hgoes : w.isActive link
    · obtain ⟨hnext, ds, hannounced, hds⟩ := informs_deliverStanza hact hsend link e w hw
      obtain ⟨ds', left, hrest, hds'⟩ := ih hnext
      rw [handOut, if_pos hgoes]
      exact ⟨ds ++ ds', left, .next hgoes hannounced hrest, List.forall_mem_append.2 ⟨hds, hds'⟩⟩
    · rw [handOut, if_neg hgoes]
      exact ⟨[], e :: es, .stops (Bool.eq_false_iff.2 hgoes), List.forall_mem_nil _⟩

theorem exists_dispatch (hact : Acting q p act) (hsend : ∀ e, p (.send e)) (hw : w.Disciplined q)
    (hs : w.session? link = some s) (body : Xml.Element) : ∃ ds w₁ ds' left,
      Announces (.link link .state) ((s.step w.now (.openBody body)).notices.map .notice)
        (w.follow link (s.step w.now (.openBody body))) ds w₁ ∧
      HandsOut link body.elements left w₁ ds'
        (handOut act link body.elements (w.stepSession act link (.openBody body))) ∧
      ∀ d ∈ ds ++ ds', d.Within p := by
  have hfollowed : (w.follow link (s.step w.now (.openBody body))).Disciplined q := by
    rwa [Disciplined, scripts_follow]
  obtain ⟨hopened, ds, hannounced, hds⟩ := informs_notices hact (.link link .state)
    (s.step w.now (.openBody body)).notices _ hfollowed
  have hstep := stepSession_of_session act hs (.openBody body)
  obtain ⟨ds', left, hhanded, hds'⟩ := exists_handsOut hact hsend link body.elements hopened
  rw [hstep]
  exact ⟨ds, _, ds', left, hannounced, hhanded, List.forall_mem_append.2 ⟨hds, hds'⟩⟩

/-- A body is announced as a whole, opened, handed out and closed. -/
theorem takeBody_of_not_terminal {w₀ : World} (hs : w.session? link = some s) (hactive : s.active)
    {body : Xml.Element} (hterminal : Session.isTerminal body = false)
    (hw₀ : w₀.tell act (.link link .response) (.stanza body) = w) :
    w₀.takeBody act link body = (handOut act link body.elements
      (w.stepSession act link (.openBody body))).stepSession act link .closeBody := by
  have hgoes : w.isActive link := by
    rw [isActive, hs, Option.any_some]
    exact hactive
  rw [takeBody, hw₀]
  simp only [hgoes, if_true, hterminal, Bool.false_eq_true, if_false]

/-! ## Bodies and answers -/

/-- **Answers to a body go out together.** A body that does not end the session is opened, all its stanzas are handed
out one after the other, and it is closed. Whatever the listeners do when they are called, and whatever those do that
are called meanwhile: if nothing is done with the session but handing in stanzas and asking for what is pending to go
out, nothing goes out before the end. All that is handed in is in one pending body, in the order in which it is: in the
one that was pending before, or else in a new one. The count of the bodies that are being handed out is the same
afterwards as before. What is pending goes out at the end, in one request, if no other body is being handed out, nothing
is unanswered or being repeated, and requests may go out at all; else it stays pending.

So it is with every program that takes a body, if its handlers run no other commands. -/
theorem batched_of_body (settings : Option Bosh.Settings) (timings : Bosh.Timings) (ms : List (Nat × Move))
    (hs : w.session? link = some ((Traffic.start settings timings).run ms).session)
    (hactive : ((Traffic.start settings timings).run ms).session.active)
    {body : Xml.Element} (hterminal : Session.isTerminal body = false) :
    let s := ((Traffic.start settings timings).run ms).session
    let o := s.step w.now (.openBody body)
    (∀ {ds w₁ ds' left w₂}, Announces (.link link .state) (o.notices.map .notice) (w.follow link o) ds w₁ →
      HandsOut link body.elements left w₁ ds' w₂ → (∀ d ∈ ds ++ ds', d.Gathers link) →
      let sent := (ds ++ ds').flatMap (Deed.sent link)
      left = [] ∧
        (w₂.exchanges.map Exchange.request).filter (fun r => r.1 = link) =
          (w.exchanges.map Exchange.request).filter (fun r => r.1 = link) ∧
        ∃ t, w₂.session? link = some t ∧ t.dispatching = s.dispatching + 1 ∧
          (∀ b, s.pending = some b → o.session.draft = b) ∧
          t.pending = (if sent = [] then s.pending else some (sent.foldl (fun b e => b.push e) o.session.draft)) ∧
          ∀ act, let closed := w₂.stepSession act link .closeBody
            ∃ t', closed.session? link = some t' ∧ t'.dispatching = s.dispatching ∧
              ∀ b, t.pending = some b → b.stanzas = s.queued ++ sent ∧
                if s.dispatching = 0 ∧ t.outstanding = 0 ∧ t.retrying = [] ∧ 1 ≤ t.maxRequests then
                  closed.exchanges = w₂.exchanges ++ [{ link, text := b.text }] ∧ t'.pending = none
                else closed.exchanges = w₂.exchanges ∧ t'.pending = some b) ∧
    ∀ depth, let act := performWithin depth
      ∃ ds w₁ ds' left w₂, Announces (.link link .state) (o.notices.map .notice) (w.follow link o) ds w₁ ∧
        HandsOut link body.elements left w₁ ds' w₂ ∧
        (w.Disciplined (·.isSend) → ∀ d ∈ ds ++ ds', d.Gathers link) ∧
        ∀ w₀ : World, w₀.tell act (.link link .response) (.stanza body) = w →
          w₀.takeBody act link body = w₂.stepSession act link .closeBody := by
  intro s o
  have hopened : o.effects = [] ∧ o.session.dispatching = s.dispatching + 1 ∧ o.session.active ∧
      o.session.pending = s.pending ∧ o.session.stream.isSome = s.stream.isSome :=
    Session.openBody_of_not_terminal hactive hterminal
  refine ⟨fun hannounced hhanded hgathers => ?_, fun depth => ?_⟩
  · intro sent
    obtain ⟨-, hdispatching, hopen, hpending, hstream⟩ := hopened
    obtain ⟨hall, hnone, ht⟩ := gathered_of_dispatch hs hactive hterminal hannounced hhanded hgathers
    have hframe := Session.gather_frame sent o.session
    have hcount := hframe.dispatching.trans hdispatching
    refine ⟨hall, hnone, _, ht, hcount, fun b hb => Session.draft_of_pending (hpending.trans hb), ?_, fun act => ?_⟩
    · rw [Session.pending_gather, hpending]
    · refine ⟨_, (stepSession_closeBody ht act).1, ?_, fun b hb => ?_⟩
      · rw [Session.dispatching_closeBody, hcount, Nat.add_sub_cancel]
      · have hstanzas : b.stanzas = s.queued ++ sent := by
          rw [← Session.draft_of_pending hb, Session.draft_gather, Session.stanzas_foldl_push, Session.stanzas_draft,
            Session.queued, hpending]
          rfl
        have hstays : (o.session.gather sent).stream.isSome := by
          rw [hframe.stream_isSome, hstream]
          exact Bosh.Traffic.grounded_run settings timings ms hactive
        exact ⟨hstanzas, closed_of_pending ht hstays (hframe.active.trans hopen) hcount hb act⟩
  · intro act
    have htaken (w₀ : World) (hw₀ : w₀.tell act (.link link .response) (.stanza body) = w) :=
      takeBody_of_not_terminal hs hactive hterminal hw₀
    by_cases hsends : w.Disciplined (·.isSend)
    · have hact : Acting (·.isSend) (fun i => i = .flush ∨ ∃ e, i = .send e) act :=
        acting_performWithin (fun e => .inr ⟨e, rfl⟩) (.inl rfl) depth
      obtain ⟨ds, w₁, ds', left, hannounced, hhanded, hds⟩ :=
        exists_dispatch hact (fun e => .inr ⟨e, rfl⟩) hsends hs body
      exact ⟨ds, w₁, ds', left, _, hannounced, hhanded, fun _ d hd => (hds d hd).gathers link, htaken⟩
    · obtain ⟨ds, w₁, ds', left, hannounced, hhanded, -⟩ :=
        exists_dispatch (moves_performWithin depth) (fun _ => trivial) (fun _ _ _ _ => trivial) hs body
      exact ⟨ds, w₁, ds', left, _, hannounced, hhanded, fun h => absurd h hsends, htaken⟩

/-! ## A listener that answers -/

theorem announces_alone {hub : Hub} {e : Nat × Listener} (hentries : (w.registry hub).entries = [e])
    (hactive : e.2.isPassive = false) (hpresent : w.present e.2) (mail : Mail) (h : Evolves w ds w') :
    Announces hub [mail] w (.began hub mail [e] :: (.called hub mail e :: (ds ++ [.returned hub e.1 .ok]) ++
      [.ended hub])) w' := by
  have hprune : w.updateRegistry hub (Registry.prune w.present) = w := by
    refine updateRegistry_eq_self (Registry.prune_eq_self ?_)
    rw [Registry.toList, hentries]
    exact List.forall_mem_singleton.2 hpresent
  have hcalled : (emit (registry hub) (updateRegistry hub) World.present (fun _ _ => (w', .ok)) w).1 = w' := by
    simp only [emit, hprune, hentries, deliver]
    exact updateRegistry_eq_self (Registry.retire_nil _)
  have htells : Tells hub mail (fun _ _ => (w', .ok)) (w.registry hub).entries w
      (.called hub mail e :: (ds ++ [.returned hub e.1 .ok])) := by
    rw [hentries]
    exact .handles hactive h (.nobody _)
  have hannounced := Announces.next hprune htells (.nothing hub _)
  rwa [hcalled, hentries] at hannounced

/-- One handler hears of a session and of its stanzas. -/
structure Handled (s : Session) (w : World) : Prop where
  session : w.session? 0 = some s
  handler : ∀ topic ∈ [Topic.state, .received], (w.registry (.link 0 topic)).entries = [(0, .script 0)]

theorem Handled.announces (h : Handled s w) (hs : s.IsHandingOut) (topic : Topic)
    (ht : topic ∈ [Topic.state, .received]) (mail : Mail) (answer : Option Xml.Element) :
    ∃ ds w', Announces (.link 0 topic) [mail] w ds w' ∧ Handled (s.gather answer.toList) w' ∧
      (∀ d ∈ ds, d.Gathers 0) ∧ ds.flatMap (Deed.sent 0) = answer.toList := by
  have halone {ds w'} (h' : Evolves w ds w') := announces_alone (h.handler topic ht) rfl rfl mail h'
  cases answer with
  | none =>
    refine ⟨_, _, halone (.quiet (.refl w)), h, ?_, rfl⟩
    simp [Deed.Gathers]
  | some e =>
    have hstep : s.step w.now (.send e) = ⟨s.gather [e], [], []⟩ := Session.send_of_isHandingOut hs w.now e
    have hsession := session?_follow h.session (s.step w.now (.send e)) 0
    rw [hstep, if_pos rfl] at hsession
    have hsent := @Evolves.steps 0 s (.send e) w _ _ h.session (by rw [hstep]; exact .nothing _ _)
    refine ⟨_, _, halone hsent, ⟨?_, fun topic' ht' => ?_⟩, ?_, ?_⟩
    · exact hsession
    · rw [registry_follow, h.handler topic' ht']
    · simp [Deed.Gathers]
    · simp [Deed.sent]

/-- Stanzas are handed out, and it answers some of them. -/
theorem Handled.handsOut (h : Handled s w) (hs : s.IsHandingOut) (hactive : s.active)
    (answer : Xml.Element → Option Xml.Element) (es : List Xml.Element) :
    ∃ ds w', HandsOut 0 es [] w ds w' ∧ Handled (s.gather (es.filterMap answer)) w' ∧ (∀ d ∈ ds, d.Gathers 0) ∧
      ds.flatMap (Deed.sent 0) = es.filterMap answer := by
  induction es generalizing s w with
  | nil => exact ⟨[], w, .done w, h, List.forall_mem_nil _, rfl⟩
  | cons e es ih =>
    have hgoes : w.isActive 0 := by
      rw [isActive, h.session]
      exact hactive
    obtain ⟨ds, w₁, hannounced, hfirst, hgathers, hsent⟩ :=
      h.announces hs .received (by decide) (.stanza e) (answer e)
    have hstays : (s.gather (answer e).toList).active := by
      rw [(Session.gather_frame _ s).active]
      exact hactive
    obtain ⟨ds', w₂, hhanded, hlast, hgathers', hsent'⟩ := ih hfirst (isHandingOut_gather hs _) hstays
    have hanswers : (e :: es).filterMap answer = (answer e).toList ++ es.filterMap answer := by
      cases hanswer : answer e <;> simp [hanswer]
    rw [gather_append, ← hanswers] at hlast
    refine ⟨ds ++ ds', w₂, .next hgoes hannounced hhanded, hlast, ?_, ?_⟩
    · exact List.forall_mem_append.2 ⟨hgathers, hgathers'⟩
    · rw [List.flatMap_append, hsent, hsent', hanswers]

def handling (s : Session) : World :=
  let handlers : Registry Listener := ({} : Registry Listener).add (.script 0)
  { starts := fun _ => 0, nonce := "", links := [{ session := some s, received := handlers, states := handlers }] }

/-- A handler that sends when it hears of the session and that answers the second of two stanzas. Both go out in one
request. -/
theorem batched_of_second :
    let settings : Bosh.Settings := { httpBase := "http://localhost/", hostName := "localhost" }
    let content := "<body xmlns='http://jabber.org/protocol/httpbind' sid='s'/>"
    let stanza (name : String) : Xml.Element := { tag := { name, ns := "jabber:client" } }
    let body : Xml.Element :=
      { tag := { name := "body", ns := "http://jabber.org/protocol/httpbind", attributes := [("sid", "s")] }
        children := [(stanza "presence").toNode, (stanza "message").toNode] }
    let ms : List (Nat × Move) := [(0, .call (.connect 0)), (0, .reply 0 (.response 200 content))]
    let s := ((Traffic.start (some settings) {}).run ms).session
    let o := s.step 0 (.openBody body)
    s.active ∧ Session.isTerminal body = false ∧
      ∃ ds w₁ ds' w₂, Announces (.link 0 .state) (o.notices.map .notice) ((handling s).follow 0 o) ds w₁ ∧
        HandsOut 0 body.elements [] w₁ ds' w₂ ∧ (∀ d ∈ ds ++ ds', d.Gathers 0) ∧
        (ds ++ ds').flatMap (Deed.sent 0) = [stanza "iq", stanza "message"] ∧
        ∀ act, ∃ b : Body, b.stanzas = [stanza "iq", stanza "message"] ∧
          (w₂.stepSession act 0 .closeBody).exchanges = w₂.exchanges ++ [{ link := 0, text := b.text }] := by
  intro settings content stanza body ms s o
  have hs : (handling s).session? 0 = some s := rfl
  have hactive : s.active := by decide +kernel
  have hterminal : Session.isTerminal body = false := by decide +kernel
  have hnotices : o.notices = [.connected] := by decide +kernel
  obtain ⟨-, hdispatching, hopen, -, -⟩ := Session.openBody_of_not_terminal hactive hterminal
  have hhanding (sent : List Xml.Element) : (o.session.gather sent).IsHandingOut := by
    refine isHandingOut_gather (s := o.session) ?_ sent
    rw [Session.IsHandingOut, show o.session.dispatching = s.dispatching + 1 from hdispatching]
    exact Nat.succ_pos _
  have hgoes (sent : List Xml.Element) : (o.session.gather sent).active := by
    rw [(Session.gather_frame sent o.session).active]
    exact hopen
  have hstart : Handled (o.session.gather []) ((handling s).follow 0 o) := by
    refine ⟨?_, fun topic ht => ?_⟩
    · rw [session?_follow hs, if_pos rfl]
      rfl
    · rw [registry_follow]
      revert topic
      decide
  -- The handler is called with the notice and with each of the stanzas.
  obtain ⟨ds, w₁, hnotice, hfirst, hgathers, hsent⟩ :=
    hstart.announces (hhanding _) .state (by decide) (.notice .connected) (some (stanza "iq"))
  rw [gather_append] at hfirst
  obtain ⟨ds', w₂, hhanded, hlast, hgathers', hsent'⟩ := hfirst.handsOut (hhanding _) (hgoes _)
    (fun e => if e.name = "message" then some e else none) body.elements
  have hannounced : Announces (.link 0 .state) (o.notices.map .notice) ((handling s).follow 0 o) ds w₁ := by
    rw [hnotices]
    exact hnotice
  have hall : ∀ d ∈ ds ++ ds', d.Gathers 0 := List.forall_mem_append.2 ⟨hgathers, hgathers'⟩
  have hstanzas : (ds ++ ds').flatMap (Deed.sent 0) = [stanza "iq", stanza "message"] := by
    rw [List.flatMap_append, hsent, hsent']
    rfl
  refine ⟨hactive, hterminal, ds, w₁, _, w₂, hannounced, hhanded, hall, hstanzas, fun act => ?_⟩
  obtain ⟨hbatched, -⟩ := batched_of_body (some settings) {} ms hs hactive hterminal
  obtain ⟨-, -, t, ht, -, -, hpending, hclose⟩ := hbatched hannounced hhanded hall
  rw [hstanzas, if_neg (List.cons_ne_nil _ _)] at hpending
  obtain ⟨t', -, -, hclosed⟩ := hclose act
  obtain ⟨hb, hgone⟩ := hclosed _ hpending
  have hmay : s.dispatching = 0 ∧ t.outstanding = 0 ∧ t.retrying = [] ∧ 1 ≤ t.maxRequests := by
    obtain rfl := Option.some.inj (hlast.session.symm.trans ht)
    decide +kernel
  have hqueued : s.queued = [] := by
    have hnone : s.pending = none := Option.isNone_iff_eq_none.1 (by decide +kernel)
    rw [Session.queued, hnone]
    rfl
  rw [if_pos hmay] at hgone
  rw [hqueued, hstanzas] at hb
  exact ⟨_, hb, hgone.1⟩

end World

end XmppBosh.Client
