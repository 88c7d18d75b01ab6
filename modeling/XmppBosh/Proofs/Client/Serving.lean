import XmppBosh.Proofs.Client.Attending
import XmppBosh.Proofs.Client.Turns

/-!
# What the server does while a client logs in

* `Turn.isServer` : a turn is the server's, or it only lets time pass;
* `handedOut` : the stanzas that a turn hands out: those of the body that a request was answered with;
* `Comes.deliverStanza` : the manager takes a stanza that comes in once, if it was asked for an attempt;
* `Busy`, `Comes.handOut` : a session stays active while the stanzas of a body are handed out, so that all of them
  are;
* `Comes.takeReply` : a reply, the body in it, and its stanzas;
* `Comes.turn` : a turn of the server, and what the manager was asked for with it.
-/

namespace XmppBosh.Client

open Sasl (Attempt Operation)
open Sasl.Negotiation (operate attemptAfter begins results)

def Turn.isServer : Turn → Bool
  | .command (.reply _ _) | .command (.advance _) => true
  | .command _ => false
  | .task | .refill | .ripen _ => true

namespace World

variable {act : Act} {w w' w₀ : World} {seat : Seat} {asked asked' : Option (List Operation)} {mail : Mail}

/-! ## Stanzas -/

theorem Comes.hear (h : Comes seat asked w₀ w) (act : Act) (hub : Hub) (mail : Mail) (hmail : Good asked w mail)
    (l : Listener) : Comes seat asked w₀ (w.hear act hub mail l).1 :=
  h.heard (heard_hear act h.attends.scripts hub mail l) fun _ => hmail

theorem Comes.hearManager (h : Comes seat asked w₀ w) (act : Act) (link : Nat) (stanza : Xml.Element)
    (halive : w.managerAlive seat.manager) : Comes seat (asked.map (· ++ [.receive stanza])) w₀
      (w.hearStanza act link stanza (.manager seat.manager)).1 := by
  simp only [World.hearStanza, halive, if_true]
  exact h.handle act stanza halive

theorem Comes.hearOther (h : Comes seat asked w₀ w) (act : Act) (link : Nat) (stanza : Xml.Element) {l : Listener}
    (hl : l ≠ .manager seat.manager) : Comes seat asked w₀ (w.hearStanza act link stanza l).1 := by
  cases l with
  | manager id =>
    have hdead : w.managerAlive id = false := by
      by_contra halive
      exact hl (congrArg _ (h.attends.alive id (by simpa using halive)))
    simp only [World.hearStanza, hdead]
    exact h
  | recorder => exact h.hear act (.link link .received) (.stanza stanza) trivial .recorder
  | mailbox id => exact h.hear act (.link link .received) (.stanza stanza) trivial (.mailbox id)
  | script id => exact h.hear act (.link link .received) (.stanza stanza) trivial (.script id)

theorem Reserved.managerAlive (h : w.Reserved) (i : Nat) :
    w.managerAlive i = w.logins.any fun l => l.manager? = some i := by
  have hnone : (w.authentications.any fun a => a.isRunning && decide (a.manager = i)) = false := by
    rw [List.any_eq_false]
    intro a ha
    simp [Authentication.isRunning, h.authentications a ha]
  simp [World.managerAlive, h.manager, hnone]

theorem Comes.managerAlive (h : Comes seat asked w w') (hw : w.Reserved) (i : Nat) :
    w'.managerAlive i = w.managerAlive i := by
  rw [h.attends.managerAlive, h.serves.logins, hw.managerAlive]

theorem Comes.hearAny (h : Comes seat asked w₀ w) (act : Act) (link : Nat) (stanza : Xml.Element) (l : Listener) :
    ∃ asked', Comes seat asked' w₀ (w.hearStanza act link stanza l).1 := by
  by_cases hl : l = .manager seat.manager
  · subst hl
    cases halive : w.managerAlive seat.manager with
    | true => exact ⟨_, h.hearManager act link stanza halive⟩
    | false =>
      simp only [World.hearStanza, halive]
      exact ⟨_, h⟩
  · exact ⟨_, h.hearOther act link stanza hl⟩

theorem Comes.deliver (h : Comes seat asked w₀ w) (act : Act) (link : Nat) (stanza : Xml.Element)
    {es : List (Nat × Listener)} (hes : asked.isSome → ∃ before number after,
      es = before ++ (number, .manager seat.manager) :: after ∧
        ∀ e ∈ before ++ after, e.2 ≠ .manager seat.manager) :
    Comes seat (asked.map (· ++ [.receive stanza])) w₀ (deliver (World.hearStanza act link stanza) es w).1 := by
  have hothers : ∀ {asked'} {es : List (Nat × Listener)} {w : World}, (∀ e ∈ es, e.2 ≠ .manager seat.manager) →
      Comes seat asked' w₀ w → Comes seat asked' w₀ (XmppBosh.deliver (World.hearStanza act link stanza) es w).1 :=
    fun hne h => deliver_induction h fun e he w h => h.hearOther act link stanza (hne e he)
  cases asked with
  -- As long as nothing was asked for, it does not matter how often the manager hears the stanza.
  | none =>
    refine deliver_induction (P := Comes seat none w₀) h fun e _ w h => ?_
    by_cases he : e.2 = .manager seat.manager
    · rw [he]
      cases halive : w.managerAlive seat.manager with
      | true => exact h.hearManager act link stanza halive
      | false =>
        simp only [World.hearStanza, halive]
        exact h
    · exact h.hearOther act link stanza he
  | some ops =>
    obtain ⟨before, number, after, rfl, hne⟩ := hes rfl
    rw [List.forall_mem_append] at hne
    have hbefore := hothers hne.1 h
    rw [deliver_append]
    exact (hothers hne.2 (hbefore.hearManager act link stanza (hbefore.attends.attempt ops rfl).1) :)

/-- A manager that was asked for an attempt is registered once. -/
theorem Attends.split (h : Attends seat asked w) (hasked : asked.isSome) : ∃ before number after,
    (w.registry (.link 0 .received)).entries = before ++ (number, .manager seat.manager) :: after ∧
      ∀ e ∈ before ++ after, e.2 ≠ .manager seat.manager := by
  obtain ⟨ops, hops⟩ := Option.isSome_iff_exists.1 hasked
  have halive := (h.attempt ops hops).1
  obtain ⟨before, after, hentries⟩ := List.append_of_mem (h.listed halive)
  refine ⟨before, _, after, hentries, fun e he hmanager => ?_⟩
  have hmem : (e.1, .manager seat.manager) ∈ (w.registry (.link 0 .received)).entries := by
    rw [hentries, ← hmanager]
    exact (List.sublist_cons_self ..).append_left _ |>.subset he
  have hnodup := h.numbered.nodup
  rw [hentries, List.map_append, List.map_cons, List.nodup_middle, List.nodup_cons, ← List.map_append,
    ← h.once halive e.1 hmem] at hnodup
  exact hnodup.1 (List.mem_map.2 ⟨e, he, rfl⟩)

theorem Attends.not_closed (h : Attends seat asked w) (act : Act) (stanza : Xml.Element)
    {d : World × List (Nat × Verdict)}
    (hd : XmppBosh.deliver (World.hearStanza act 0 stanza) (w.registry (.link 0 .received)).entries w = d)
    (halive : d.1.managerAlive seat.manager) : seat.number ∉ closedIds d.2 := by
  intro hmem
  have hcall : ∀ e ∈ (w.registry (.link 0 .received)).entries, ∀ s, (∃ asked', Comes seat asked' w s) →
      ∃ asked', Comes seat asked' w (World.hearStanza act 0 stanza e.2 s).1 :=
    fun e _ s ⟨_, hs⟩ => hs.hearAny act 0 stanza e.2
  obtain ⟨_, hdelivered⟩ := deliver_induction (P := fun s => ∃ asked', Comes seat asked' w s) ⟨asked, .refl h⟩ hcall
  rw [hd] at hdelivered
  have halive₁ : w.managerAlive seat.manager := hdelivered.managerAlive h.toReserved _ ▸ halive
  rw [← hd] at hmem
  obtain ⟨l, s, hl, ⟨_, hs⟩, hclosed⟩ := called_of_mem_closedIds ⟨asked, .refl h⟩ hcall hmem
  obtain rfl := h.numbered.eq_of_number hl (h.listed halive₁)
  refine hearStanza_ne_closed ?_ act 0 stanza hclosed
  rwa [hs.managerAlive h.toReserved]

theorem Comes.deliverStanza (h : Comes seat asked w₀ w) (act : Act) (stanza : Xml.Element) :
    Comes seat (asked.map (· ++ [.receive stanza])) w₀ (w.deliverStanza act 0 stanza).1 := by
  have hpruned : Comes seat asked w₀ (w.updateRegistry (.link 0 .received) (Registry.prune w.present)) :=
    h.sift _ (fun e => w.present e.2) fun _ _ => rfl
  simp only [World.deliverStanza, emit]
  generalize w.updateRegistry (.link 0 .received) (Registry.prune w.present) = w₁ at hpruned ⊢
  have hdelivered := hpruned.deliver act 0 stanza hpruned.attends.split
  generalize hd : XmppBosh.deliver (World.hearStanza act 0 stanza) _ w₁ = d at hdelivered ⊢
  refine hdelivered.sift _ (fun e => !(closedIds d.2).contains e.1) fun _ halive => ?_
  simpa using Attends.not_closed hpruned.attends act stanza hd halive

/-! ## Active sessions -/

structure Busy (w : World) : Prop where
  scripts : w.scripts = []
  links : w.links.length = 1
  active : w.isActive 0

theorem Busy.updateRegistry (h : w.Busy) (hub : Hub) (change : Registry Listener → Registry Listener) :
    (w.updateRegistry hub change).Busy := by
  refine ⟨?_, ?_, ?_⟩
  · cases hub <;> exact h.scripts
  · cases hub with
    | link => exact (List.length_modify ..).trans h.links
    | results => exact h.links
  · rw [World.isActive, session?_updateRegistry]
    exact h.active

theorem Busy.heard {hub : Hub} {ls : List Listener} (h : w.Busy) (hh : Heard hub mail ls w w') : w'.Busy := by
  rw [hh.same]
  exact ⟨h.scripts, h.links, h.active⟩

theorem Busy.tell (h : w.Busy) (act : Act) (hub : Hub) (mail : Mail) : (w.tell act hub mail).Busy :=
  (h.updateRegistry ..).heard (heard_tell act h.scripts hub mail)

theorem Steps.busy {s : Bosh.Session} {posts : List Bosh.Request} (hstep : Steps s posts w w') (h : w.Busy)
    (hactive : s.active) : w'.Busy :=
  ⟨hstep.keeps.scripts.trans h.scripts, hstep.keeps.links.trans h.links,
    by simpa [isActive, hstep.session] using hactive⟩

theorem Busy.stepSession (h : w.Busy) (act : Act) (link : Nat) {i : Bosh.Input}
    (hi : ∀ s, w.session? link = some s → s.active → (s.step w.now i).session.active) :
    (w.stepSession act link i).Busy := by
  cases hs : w.session? link with
  | none =>
    rw [World.stepSession, hs]
    exact h
  | some s =>
    obtain rfl := link_of_session h.links hs
    have hactive : s.active := by simpa [isActive, hs] using h.active
    have hstep := World.steps hs (s.step w.now i)
    have hbusy := hstep.busy h (hi s hs hactive)
    simp only [World.stepSession, hs]
    generalize (s.step w.now i).effects.foldl (doEffect 0) _ = w' at hbusy ⊢
    induction (s.step w.now i).notices generalizing w' with
    | nil => exact hbusy
    | cons n notices ih => exact ih _ (hbusy.tell ..)

theorem Busy.sendOn (h : w.Busy) (act : Act) (link : Nat) (stanza : Xml.Element) :
    (w.sendOn act link stanza).Busy := by
  refine (h.stepSession act link fun s _ hactive => ?_).tell ..
  have hframe := (Bosh.Session.edit_frame (Bosh.Body.push stanza) s).trans (Bosh.Session.flush_frame w.now _)
  exact hframe.active.trans hactive

theorem Busy.reply (h : w.Busy) (act : Act) (link : Nat) (reply : Option Xml.Element) :
    (match reply with
      | some reply => w.sendOn act link reply
      | none => w).Busy := by
  cases reply with
  | none => exact h
  | some reply => exact h.sendOn act link reply

theorem Busy.handle (h : w.Busy) (act : Act) (id : Nat) (stanza : Xml.Element) :
    (w.handle act id stanza).1.Busy := by
  cases hm : w.managers[id]? with
  | none =>
    simp only [World.handle, hm]
    exact h
  | some m =>
    simp only [World.handle, hm]
    generalize Sasl.Negotiation.receive m.attempt stanza = reaction
    have hset : (w.modifyManager id fun m => { m with attempt := reaction.attempt }).Busy :=
      ⟨h.scripts, h.links, h.active⟩
    generalize w.modifyManager id _ = w₁ at hset ⊢
    have hsent := hset.reply act m.link reaction.reply
    cases reaction.result with
    | none => exact hsent
    | some r => exact hsent.tell ..

theorem Busy.hearStanza (h : w.Busy) (act : Act) (link : Nat) (stanza : Xml.Element) (l : Listener) :
    (w.hearStanza act link stanza l).1.Busy := by
  have hheard := heard_hear act h.scripts (.link link .received) (.stanza stanza) l
  cases l with
  | manager id =>
    simp only [World.hearStanza]
    split
    · exact h.handle act id stanza
    · exact h
  | recorder | mailbox | script => exact h.heard hheard

theorem Busy.deliverStanza (h : w.Busy) (act : Act) (link : Nat) (stanza : Xml.Element) :
    (w.deliverStanza act link stanza).1.Busy :=
  emit_induction (h.updateRegistry ..) (fun l _ _ h => h.hearStanza act link stanza l)
    fun _ _ h => h.updateRegistry ..

/-! ## Bodies -/

theorem Comes.handOut (h : Comes seat asked w₀ w) (hbusy : w.Busy) (act : Act) (stanzas : List Xml.Element) :
    Comes seat (asked.map (· ++ stanzas.map .receive)) w₀ (w.handOut act 0 stanzas) := by
  -- The session is still active after each stanza, so that the next one is handed out as well.
  induction stanzas generalizing asked w with
  | nil =>
    rw [World.handOut]
    simpa using h
  | cons stanza stanzas ih =>
    rw [World.handOut, if_pos hbusy.active]
    have hrest := ih (h.deliverStanza act stanza) (hbusy.deliverStanza act 0 stanza)
    simpa [Function.comp_def] using hrest

theorem Comes.takeBody (h : Comes seat asked w₀ w) (hbusy : w.Busy) (act : Act) (body : Xml.Element) :
    Comes seat (asked.map (· ++ (if Bosh.Session.isTerminal body then [] else body.elements).map .receive)) w₀
      (w.takeBody act 0 body) := by
  have htold := h.tell act (.link 0 .response) (.stanza body) fun _ => trivial
  have hbusy := hbusy.tell act (.link 0 .response) (.stanza body)
  rw [World.takeBody, if_pos hbusy.active]
  have hopened := htold.stepSession act 0 (i := .openBody body) (fun _ _ => rfl) rfl
  cases hterminal : Bosh.Session.isTerminal body with
  | true => simpa [hterminal] using hopened
  | false =>
    have hbusy := hbusy.stepSession act 0 (i := .openBody body) fun s _ hactive =>
      Bosh.Session.active_openBody hactive hterminal
    simp only [Bool.false_eq_true, if_false]
    exact (hopened.handOut hbusy act body.elements).stepSession act 0 (fun _ _ => rfl) rfl

/-- The stanzas that a reply brings: those in its body, unless that ends the session. -/
def brought (link : Nat) (reply : Bosh.Reply) (w : World) : List Xml.Element :=
  match (w.session? link).bind fun s => s.carried? reply with
  | some body => if Bosh.Session.isTerminal body then [] else body.elements
  | none => []

theorem Comes.takeReply (h : Comes seat asked w₀ w) (act : Act) (link : Nat) (request : String)
    (reply : Bosh.Reply) : Comes seat (asked.map (· ++ (w.brought link reply).map .receive)) w₀
      (w.takeReply act link request reply) := by
  have hanswered := h.stepSession act link (i := .answer request reply) (fun _ _ => rfl) rfl
  simp only [World.takeReply, brought]
  cases hbody : (w.session? link).bind fun s => s.carried? reply with
  | none => simpa using hanswered
  | some body =>
    obtain ⟨s, hs, hcarried⟩ := Option.bind_eq_some_iff.1 hbody
    obtain rfl := link_of_session h.attends.links hs
    have hactive := Bosh.Session.active_of_carried? hcarried
    have hreading := Bosh.Session.reading_of_carried? hcarried
    have hbusy : w.Busy := ⟨h.attends.scripts, h.attends.links, by simpa [isActive, hs] using hactive⟩
    refine hanswered.takeBody (hbusy.stepSession act 0 fun s' hs' _ => ?_) act body
    obtain rfl : s = s' := Option.some.inj (hs.symm.trans hs')
    exact Bosh.Session.active_answer hactive hreading

/-! ## Turns -/

theorem goOff_eq (due link : Nat) (alarm : Bosh.Alarm) (w : World) : w.goOff due link alarm = w ∨
    ∃ timers, w.goOff due link alarm = { w.stepSession w.act link (.fire alarm) with timers } := by
  unfold goOff
  split
  · right
    cases alarm with
    | heartbeat => exact ⟨_, rfl⟩
    | retry | continuation => exact ⟨_, rfl⟩
  · exact .inl rfl

theorem Comes.wait (h : Comes seat asked w₀ w) (hstill : Still w w') (hmailboxes : w'.mailboxes = w.mailboxes)
    (hlog : w'.log = w.log) : Comes seat asked w₀ w' := by
  refine h.still hstill (congrArg List.length hmailboxes) (.of_log hlog) fun box _ mail hmem => .inl ?_
  rwa [World.content, hmailboxes] at hmem

def broughtBy (t : Task) (w : World) : List Xml.Element :=
  match t with
  | .exchange id =>
    match w.exchanges[id]? with
    | some { link, reply := some reply, .. } => w.brought link reply
    | _ => []
  | .alarm _ _ _ | .login _ | .authentication _ => []

/-- A link that nobody holds is not the program's, and has no session. -/
theorem Reserved.brought_of_dead (h : w.Reserved) {link : Nat} (hdead : ¬ w.linkAlive link) (reply : Bosh.Reply) :
    w.brought link reply = [] := by
  have hnone : w.session? link = none := by
    cases hs : w.session? link with
    | none => rfl
    | some s =>
      obtain rfl := link_of_session h.links hs
      exact absurd (by simp [linkAlive, h.link]) hdead
  rw [brought, hnone, Option.bind_none]

theorem Comes.runTask (h : Comes seat asked w₀ w) {t : Task}
    (ht : ∀ id l, t = .login id → w.logins[id]? = some l → l.phase = .finished) :
    Comes seat (asked.map (· ++ (w.broughtBy t).map .receive)) w₀ (w.runTask t) := by
  have hnothing : ∀ {w'}, Comes seat asked w₀ w' →
      Comes seat (asked.map (· ++ ([] : List Xml.Element).map .receive)) w₀ w' := by
    intro w' h'
    simpa using h'
  cases t with
  | exchange id =>
    rcases hx : w.exchanges[id]? with _ | ⟨link, text, _ | reply⟩
    · simpa only [World.runTask, broughtBy, hx] using hnothing h
    · simpa only [World.runTask, broughtBy, hx] using hnothing h
    · simp only [World.runTask, broughtBy, hx]
      split
      · exact h.takeReply w.act link text reply
      · next hdead =>
        rw [h.attends.brought_of_dead hdead]
        exact hnothing h
  | alarm due link alarm =>
    refine hnothing ?_
    rw [World.runTask]
    split
    · rcases goOff_eq due link alarm w with heq | ⟨timers, heq⟩
      · rw [heq]
        exact h
      · rw [heq]
        exact (h.stepSession w.act link (fun _ _ => rfl) rfl).wait rfl rfl rfl
    · exact h.wait rfl rfl rfl
  | login id =>
    refine hnothing ?_
    cases hl : w.logins[id]? with
    | none =>
      simp only [World.runTask, resumeLogin, hl]
      exact h
    | some l =>
      simp only [World.runTask, resumeLogin, hl, ht id l rfl hl]
      exact h
  | authentication id =>
    refine hnothing ?_
    cases ha : w.authentications[id]? with
    | none =>
      simp only [World.runTask, resumeAuthentication, ha]
      exact h
    | some a =>
      simp only [World.runTask, resumeAuthentication, ha, h.attends.authentications a (List.mem_of_getElem? ha)]
      exact h

def handedOut (t : Turn) (w : World) : List Xml.Element :=
  match t with
  | .task => (w.queue.head?.map fun t => w.broughtBy t).getD []
  | .command _ | .refill | .ripen _ => []

/-- **What the server does.** A turn in which no login goes on. -/
theorem Comes.turn (h : Attends seat asked w) {t : Turn} (ht : t.isServer)
    (hqueue : ∀ id l, t = .task → w.queue.head? = some (.login id) → w.logins[id]? = some l → l.phase = .finished) :
    Comes seat (asked.map (· ++ (w.handedOut t).map .receive)) w (w.turn t) := by
  have hnothing : ∀ {w'}, Comes seat asked w w' →
      Comes seat (asked.map (· ++ ([] : List Xml.Element).map .receive)) w w' := by
    intro w' h'
    simpa using h'
  have hw := Comes.refl h
  cases t with
  | command c =>
    cases c with
    | reply target reply =>
      refine hnothing ?_
      show Comes seat asked w (w.perform _ _).1
      simp only [perform]
      cases w.target? target with
      | none => exact hw
      | some index =>
        dsimp only
        rw [wake_eq]
        exact hw.wait rfl rfl rfl
    | advance ms =>
      refine hnothing ?_
      show Comes seat asked w (w.perform _ _).1
      simp only [perform, performOnLink, withLink, h.link]
      exact hw
    | _ => cases ht
  | task =>
    cases hq : w.queue with
    | nil =>
      simp only [World.turn, hq, handedOut]
      exact hnothing hw
    | cons t rest =>
      have htaken : Comes seat asked w { w with queue := rest } := hw.wait rfl rfl rfl
      simp only [World.turn, hq, handedOut]
      refine htaken.runTask fun id l heq hl => ?_
      exact hqueue id l rfl (by rw [hq, heq]; rfl) hl
  | refill => exact hnothing (hw.wait rfl rfl rfl)
  | ripen due => exact hnothing (hw.wait rfl rfl rfl)

end World

end XmppBosh.Client
