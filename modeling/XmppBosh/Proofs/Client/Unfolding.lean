import XmppBosh.Proofs.Client.Evolution
import XmppBosh.Proofs.Client.Turns

/-!
# How a program proceeds

* `Quiet.of_parts`, `quiet_note`, `quiet_modifyMailbox` : changes that nothing is done with;
* `Disciplined`, `Proceeds` : a program whose handlers run only some commands comes to another state by steps of
  sessions and by events;
* `proceeds_tell`, `proceeds_stepSession`, `proceeds_sendOn`, `proceeds_deliverStanza` : so it does with events, steps
  of sessions and stanzas;
* `proceeds_perform`, `proceeds_runTask` : and with commands and tasks, if its handlers run whatever they like;
* `evolves_after` : nothing else ever happens; `unfolds_after` : what has happened at a hub is announcements inside of
  each other, and the log shows the calls of it; `numbered_after` : registrations keep having numbers of their own.
-/

namespace XmppBosh.Client

def Deed.Within (p : Bosh.Input → Prop) : Deed → Prop
  | .stepped _ i _ => p i
  | _ => True

namespace World

variable {act : Act} {hub : Hub} {w w' w'' : World} {mail : Mail} {mails : List Mail} {ds ds' : List Deed}
  {q : Command → Prop} {p : Bosh.Input → Prop} {call : Listener → World → World × Verdict}

/-! ## Changes that nothing is done with -/

/-- What sessions and listeners have a part in. -/
def parts (w : World) :
    List Link × List Manager × List Exchange × List Mailbox × List Script × List Event :=
  (w.links, w.managers, w.exchanges, w.mailboxes, w.scripts, w.log)

theorem Quiet.of_parts (h : w'.parts = w.parts) : Quiet w w' := by
  simp only [parts, Prod.mk.injEq] at h
  obtain ⟨hlinks, hmanagers, hexchanges, hmailboxes, -, hlog⟩ := h
  refine ⟨fun link s hs => ?_, fun hub => ?_, by rw [hexchanges], ?_, fun box _ hp => ?_, [], ?_,
    List.forall_mem_nil _⟩
  · rwa [session?, hlinks]
  · cases hub <;> simp only [World.registry, hlinks, hmanagers]
  · exact Nat.le_of_eq (by rw [hmailboxes])
  · rwa [World.present, hmailboxes] at hp
  · rw [hlog, List.append_nil]

theorem quiet_note {e : Event} (he : ∀ hub, e.Besides hub) (w : World) : Quiet w (w.note e) :=
  ⟨fun _ _ hs => hs, fun hub => by cases hub <;> rfl, rfl, Nat.le_refl _, fun _ _ hp => hp, [e], rfl,
    List.forall_mem_singleton.2 he⟩

theorem quiet_spend (id : Nat) (w : World) :
    Quiet w { w with scripts := w.scripts.modify id fun s => { s with left := s.left - 1 } } :=
  ⟨fun _ _ hs => hs, fun hub => by cases hub <;> rfl, rfl, Nat.le_refl _, fun _ _ hp => hp, [],
    (List.append_nil _).symm, List.forall_mem_nil _⟩

theorem quiet_addScript (s : Script) (w : World) : Quiet w { w with scripts := w.scripts ++ [s] } :=
  ⟨fun _ _ hs => hs, fun hub => by cases hub <;> rfl, rfl, Nat.le_refl _, fun _ _ hp => hp, [],
    (List.append_nil _).symm, List.forall_mem_nil _⟩

theorem quiet_modifyMailbox {change : Mailbox → Mailbox} (hchange : ∀ b, (change b).isOpen → b.isOpen) (id : Nat)
    (w : World) : Quiet w (w.modifyMailbox id change) := by
  refine ⟨fun _ _ hs => hs, fun hub => by cases hub <;> rfl, rfl, ?_, fun box _ hp => ?_, [],
    (List.append_nil _).symm, List.forall_mem_nil _⟩
  · simp [modifyMailbox]
  · by_cases hbox : id = box
    · subst hbox
      cases hb : w.mailboxes[id]? with
      | none => simp [World.present, modifyMailbox, hb] at hp
      | some b => simpa [World.present, hb] using hchange b (by simpa [World.present, modifyMailbox, hb] using hp)
    · simpa [World.present, modifyMailbox, hbox] using hp

theorem quiet_reply (id : Nat) (reply : Bosh.Reply) (w : World) :
    Quiet w { w with exchanges := w.exchanges.modify id fun x => { x with reply := some reply } } := by
  refine ⟨fun _ _ hs => hs, fun hub => by cases hub <;> rfl, ?_, Nat.le_refl _, fun _ _ hp => hp, [],
    (List.append_nil _).symm, List.forall_mem_nil _⟩
  refine List.ext_getElem? fun i => ?_
  rw [List.getElem?_map, List.getElem?_map, List.getElem?_modify]
  cases w.exchanges[i]? with
  | none => rfl
  | some x => by_cases hi : id = i <;> simp [hi, Exchange.request]

theorem quiet_openMailbox (w : World) : Quiet w w.openMailbox.1 := by
  refine ⟨fun _ _ hs => hs, fun hub => by cases hub <;> rfl, rfl, ?_, fun box hbox hp => ?_, [],
    (List.append_nil _).symm, List.forall_mem_nil _⟩
  · simp [openMailbox]
  · rwa [World.present, openMailbox, List.getElem?_append_left hbox] at hp

theorem quiet_modifyManager {change : Manager → Manager} (hchange : ∀ m, (change m).results = m.results)
    (id : Nat) (w : World) : Quiet w (w.modifyManager id change) := by
  refine ⟨fun _ _ hs => hs, fun hub => ?_, rfl, Nat.le_refl _, fun _ _ hp => hp, [], (List.append_nil _).symm,
    List.forall_mem_nil _⟩
  cases hub with
  | link => rfl
  | results id' =>
    by_cases hid : id = id'
    · subst hid
      cases hm : w.managers[id]? <;> simp [registry, modifyManager, hm, hchange]
    · simp [registry, modifyManager, hid]

/-! ## Proceeding -/

/-- The handlers of a program run no other commands than these. -/
def Disciplined (q : Command → Prop) (w : World) : Prop := ∀ s ∈ w.scripts, ∀ c ∈ s.actions, q c

/-- If its handlers run only some commands, a program comes to another state with no other steps than these. -/
def Proceeds (q : Command → Prop) (p : Bosh.Input → Prop) (w w' : World) : Prop :=
  w.Disciplined q → w'.Disciplined q ∧ ∃ ds, Evolves w ds w' ∧ ∀ d ∈ ds, d.Within p

theorem Proceeds.of_evolves (h : Evolves w ds w') (hds : ∀ d ∈ ds, d.Within p) (hscripts : w'.scripts = w.scripts) :
    Proceeds q p w w' :=
  fun hw => ⟨by rwa [Disciplined, hscripts], ds, h, hds⟩

theorem Proceeds.of_quiet (h : Quiet w w') (hscripts : w'.scripts = w.scripts) : Proceeds q p w w' :=
  .of_evolves (.quiet h) (List.forall_mem_nil _) hscripts

theorem Proceeds.of_parts (h : w'.parts = w.parts) : Proceeds q p w w' :=
  .of_quiet (.of_parts h) (congrArg (fun x => x.2.2.2.2.1) h)

theorem Proceeds.refl (w : World) : Proceeds q p w w := .of_parts rfl

theorem Proceeds.trans (h : Proceeds q p w w') (h' : Proceeds q p w' w'') : Proceeds q p w w'' := by
  intro hw
  obtain ⟨hw', ds, hevolves, hds⟩ := h hw
  obtain ⟨hw'', ds', hevolves', hds'⟩ := h' hw'
  exact ⟨hw'', ds ++ ds', hevolves.trans hevolves', List.forall_mem_append.2 ⟨hds, hds'⟩⟩

theorem Proceeds.then_parts (h : Proceeds q p w w') (hparts : w''.parts = w'.parts) : Proceeds q p w w'' :=
  h.trans (.of_parts hparts)

theorem scripts_updateRegistry (hub : Hub) (change : Registry Listener → Registry Listener) (w : World) :
    (w.updateRegistry hub change).scripts = w.scripts := by cases hub <;> rfl

theorem proceeds_addListener (hub : Hub) (l : Listener) (w : World) : Proceeds q p w (w.addListener hub l) :=
  .of_evolves (.registers hub l w) (List.forall_mem_nil _) (scripts_updateRegistry ..)

theorem proceeds_note {e : Event} (he : ∀ hub, e.Besides hub) (w : World) : Proceeds q p w (w.note e) :=
  .of_quiet (quiet_note he w) rfl

theorem proceeds_modifyMailbox {change : Mailbox → Mailbox} (hchange : ∀ b, (change b).isOpen → b.isOpen) (id : Nat)
    (w : World) : Proceeds q p w (w.modifyMailbox id change) :=
  .of_quiet (quiet_modifyMailbox hchange id w) rfl

theorem proceeds_modifyManager {change : Manager → Manager} (hchange : ∀ m, (change m).results = m.results)
    (id : Nat) (w : World) : Proceeds q p w (w.modifyManager id change) :=
  .of_quiet (quiet_modifyManager hchange id w) rfl

/-! ## Events -/

/-- What listeners do with an event: those that only keep what they hear keep it, and the others proceed. -/
structure Handles (q : Command → Prop) (p : Bosh.Input → Prop) (hub : Hub) (mail : Mail)
    (call : Listener → World → World × Verdict) : Prop where
  keeps : ∀ {l}, l.isPassive → ∀ w, call l w = (w.takeDown hub mail l, .ok)
  proceeds : ∀ {l}, l.isPassive = false → ∀ w, Proceeds q p w (call l w).1

theorem scripts_takeDown (hub : Hub) (mail : Mail) (l : Listener) (w : World) :
    (w.takeDown hub mail l).scripts = w.scripts := by
  cases l with
  | mailbox box => rw [takeDown, deposit_eq]
  | _ => rfl

theorem exists_tells (hcall : Handles q p hub mail call) (es : List (Nat × Listener)) (hw : w.Disciplined q) :
    (deliver call es w).1.Disciplined q ∧ ∃ ds, Tells hub mail call es w ds ∧ ∀ d ∈ ds, d.Within p := by
  induction es generalizing w with
  | nil => exact ⟨hw, [], .nobody w, List.forall_mem_nil _⟩
  | cons e es ih =>
    cases he : e.2.isPassive with
    | true =>
      have hkept := hcall.keeps he w
      have hnext : (call e.2 w).1.Disciplined q := by
        rw [hkept, Disciplined, scripts_takeDown]
        exact hw
      obtain ⟨hrest, ds, htells, hds⟩ := ih hnext
      exact ⟨hrest, _, .keeps he hkept htells, List.forall_mem_cons.2 ⟨trivial, List.forall_mem_cons.2 ⟨trivial, hds⟩⟩⟩
    | false =>
      obtain ⟨hnext, ds, hevolves, hds⟩ := hcall.proceeds he w hw
      obtain ⟨hrest, ds', htells, hds'⟩ := ih hnext
      refine ⟨hrest, _, .handles he hevolves htells, List.forall_mem_cons.2 ⟨trivial, ?_⟩⟩
      exact List.forall_mem_append.2 ⟨hds, List.forall_mem_cons.2 ⟨trivial, hds'⟩⟩

/-- Events are announced one after the other. -/
def Informs (q : Command → Prop) (p : Bosh.Input → Prop) (hub : Hub) (mails : List Mail) (w w' : World) : Prop :=
  w.Disciplined q → w'.Disciplined q ∧ ∃ ds, Announces hub mails w ds w' ∧ ∀ d ∈ ds, d.Within p

theorem informs_emit (hcall : Handles q p hub mail call) (w : World) :
    Informs q p hub [mail] w (emit (registry hub) (updateRegistry hub) present call w).1 := by
  intro hw
  have hpruned : (w.updateRegistry hub (Registry.prune w.present)).Disciplined q := by
    rwa [Disciplined, scripts_updateRegistry]
  obtain ⟨htold, ds, htells, hds⟩ := exists_tells hcall _ hpruned
  refine ⟨?_, _, .next rfl htells (.nothing hub _), List.forall_mem_cons.2 ⟨trivial, ?_⟩⟩
  · rw [Disciplined]
    simp only [emit, scripts_updateRegistry]
    exact htold
  · exact List.forall_mem_append.2 ⟨hds, List.forall_mem_singleton.2 trivial⟩

theorem Announces.cons (h : Announces hub [mail] w ds w') (h' : Announces hub mails w' ds' w'') :
    Announces hub (mail :: mails) w (ds ++ ds') w'' := by
  cases h with
  | next pruned tells rest =>
    cases rest
    simpa using Announces.next pruned tells h'

theorem Informs.cons (h : Informs q p hub [mail] w w') (h' : Informs q p hub mails w' w'') :
    Informs q p hub (mail :: mails) w w'' := by
  intro hw
  obtain ⟨hw', ds, hannounced, hds⟩ := h hw
  obtain ⟨hw'', ds', hannounced', hds'⟩ := h' hw'
  exact ⟨hw'', _, hannounced.cons hannounced', List.forall_mem_append.2 ⟨hds, hds'⟩⟩

theorem Informs.proceeds (h : Informs q p hub [mail] w w') (hother : ∀ link, hub ≠ .link link .state) :
    Proceeds q p w w' := by
  intro hw
  obtain ⟨hw', ds, hannounced, hds⟩ := h hw
  exact ⟨hw', ds, .announces hother hannounced, hds⟩

/-! ## Listeners -/

def Acting (q : Command → Prop) (p : Bosh.Input → Prop) (act : Act) : Prop :=
  ∀ c, q c → ∀ w, Proceeds q p w (act c w).1

theorem proceeds_runActions (hact : Acting q p act) {cs : List Command} (hcs : ∀ c ∈ cs, q c) (w : World) :
    Proceeds q p w (w.runActions act cs) := by
  induction cs generalizing w with
  | nil => exact .refl w
  | cons c cs ih =>
    rw [List.forall_mem_cons] at hcs
    exact ((hact c hcs.1 w).trans (proceeds_note (fun _ => ⟨rfl, rfl⟩) _)).trans (ih hcs.2 _)

theorem proceeds_callScript (hact : Acting q p act) (id : Nat) (w : World) :
    Proceeds q p w (w.callScript act id).1 := by
  intro hw
  unfold callScript
  cases hs : w.scripts[id]? with
  | none => exact Proceeds.refl w hw
  | some s =>
    have hnoted : Proceeds q p w (w.note (.listener s.tag)) := proceeds_note (fun _ => ⟨rfl, rfl⟩) w
    by_cases hleft : s.left = 0
    · simp only [hleft, if_true]
      exact hnoted hw
    · simp only [hleft, if_false]
      refine Proceeds.trans (hnoted.trans ?_) (proceeds_runActions hact (hw s (List.mem_of_getElem? hs)) _) hw
      -- It has one call less on which it runs its commands.
      intro hw'
      refine ⟨fun s' hs' => ?_, [], .quiet (quiet_spend id _), List.forall_mem_nil _⟩
      obtain ⟨i, hi⟩ := List.mem_iff_getElem?.1 hs'
      rw [List.getElem?_modify] at hi
      obtain ⟨s'', hs'', rfl⟩ := Option.map_eq_some_iff.1 hi
      have hcommands := hw' s'' (List.mem_of_getElem? hs'')
      split <;> exact hcommands

theorem proceeds_hear (hact : Acting q p act) (hub : Hub) (mail : Mail) : Handles q p hub mail (hear act hub mail) where
  keeps {l} hl w := by
    cases l with
    | recorder | mailbox => rfl
    | script | manager => cases hl
  proceeds {l} hl w := by
    cases l with
    | recorder | mailbox => cases hl
    | script id => exact proceeds_callScript hact id w
    | manager => exact .refl w

theorem informs_tell (hact : Acting q p act) (hub : Hub) (mail : Mail) (w : World) :
    Informs q p hub [mail] w (w.tell act hub mail) :=
  informs_emit (proceeds_hear hact hub mail) w

theorem proceeds_tell (hact : Acting q p act) {hub : Hub} (hother : ∀ link, hub ≠ .link link .state) (mail : Mail)
    (w : World) : Proceeds q p w (w.tell act hub mail) :=
  (informs_tell hact hub mail w).proceeds hother

/-! ## Sessions -/

theorem scripts_follow (link : Nat) (o : Bosh.Outcome) (w : World) : (w.follow link o).scripts = w.scripts := by
  obtain ⟨queue, hfollow⟩ := follow_eq link o w
  rw [hfollow]
  rfl

theorem informs_notices (hact : Acting q p act) (hub : Hub) (ns : List Bosh.Notice) (w : World) :
    Informs q p hub (ns.map .notice) w (ns.foldl (fun w n => w.tell act hub (.notice n)) w) := by
  induction ns generalizing w with
  | nil => exact fun hw => ⟨hw, [], .nothing hub w, List.forall_mem_nil _⟩
  | cons n ns ih => exact (informs_tell hact hub (.notice n) w).cons (ih _)

theorem proceeds_stepSession (hact : Acting q p act) (link : Nat) {i : Bosh.Input} (hi : p i) (w : World) :
    Proceeds q p w (w.stepSession act link i) := by
  intro hw
  cases hs : w.session? link with
  | none =>
    have hsame : w.stepSession act link i = w := by simp only [stepSession, hs]
    rw [hsame]
    exact Proceeds.refl w hw
  | some s =>
    have hstep : w.stepSession act link i = (s.step w.now i).notices.foldl
        (fun w n => w.tell act (.link link .state) (.notice n)) (w.follow link (s.step w.now i)) :=
      stepSession_of_session act hs i
    have hfollowed : (w.follow link (s.step w.now i)).Disciplined q := by
      rwa [Disciplined, scripts_follow]
    obtain ⟨hw', ds, hannounced, hds⟩ := informs_notices hact (.link link .state) (s.step w.now i).notices _ hfollowed
    rw [hstep]
    exact ⟨hw', _, .steps hs hannounced, List.forall_mem_cons.2 ⟨hi, hds⟩⟩

theorem proceeds_sendOn (hact : Acting q p act) (link : Nat) {stanza : Xml.Element} (hsend : p (.send stanza))
    (w : World) : Proceeds q p w (w.sendOn act link stanza) :=
  (proceeds_stepSession hact link hsend w).trans (proceeds_tell hact (by simp) _ _)

theorem proceeds_handle (hact : Acting q p act) (hsend : ∀ e, p (.send e)) (id : Nat) (stanza : Xml.Element)
    (w : World) : Proceeds q p w (w.handle act id stanza).1 := by
  unfold handle
  split
  · exact .refl w
  · next m _ =>
    have hattempt : Proceeds q p w (w.modifyManager id fun m' =>
        { m' with attempt := (Sasl.Negotiation.receive m.attempt stanza).attempt }) :=
      proceeds_modifyManager (by intro; rfl) id w
    refine hattempt.trans ?_
    simp only []
    cases (Sasl.Negotiation.receive m.attempt stanza).reply <;>
      cases (Sasl.Negotiation.receive m.attempt stanza).result
    · exact .refl _
    · exact proceeds_tell hact (by simp) _ _
    · exact proceeds_sendOn hact _ (hsend _) _
    · exact (proceeds_sendOn hact _ (hsend _) _).trans (proceeds_tell hact (by simp) _ _)

theorem proceeds_hearStanza (hact : Acting q p act) (hsend : ∀ e, p (.send e)) (link : Nat) (stanza : Xml.Element) :
    Handles q p (.link link .received) (.stanza stanza) (hearStanza act link stanza) where
  keeps {l} hl w := by
    cases l with
    | recorder | mailbox => rfl
    | script | manager => cases hl
  proceeds {l} hl w := by
    cases l with
    | recorder | mailbox => cases hl
    | script id => exact proceeds_callScript hact id w
    | manager id =>
      simp only [hearStanza]
      split
      · exact proceeds_handle hact hsend id stanza w
      · exact .refl w

theorem informs_deliverStanza (hact : Acting q p act) (hsend : ∀ e, p (.send e)) (link : Nat) (stanza : Xml.Element)
    (w : World) : Informs q p (.link link .received) [.stanza stanza] w (w.deliverStanza act link stanza).1 :=
  informs_emit (proceeds_hearStanza hact hsend link stanza) w

/-! ## Bodies -/

/-- From one state to another, with whatever handlers do. -/
abbrev Moves (w w' : World) : Prop := Proceeds (fun _ => True) (fun _ => True) w w'

abbrev Moving (act : Act) : Prop := Acting (fun _ => True) (fun _ => True) act

theorem moves_stepSession (hact : Moving act) (link : Nat) (i : Bosh.Input) (w : World) :
    Moves w (w.stepSession act link i) :=
  proceeds_stepSession hact link trivial w

theorem moves_sendOn (hact : Moving act) (link : Nat) (stanza : Xml.Element) (w : World) :
    Moves w (w.sendOn act link stanza) :=
  proceeds_sendOn hact link trivial w

theorem moves_handle (hact : Moving act) (id : Nat) (stanza : Xml.Element) (w : World) :
    Moves w (w.handle act id stanza).1 :=
  proceeds_handle hact (fun _ => trivial) id stanza w

theorem moves_deliverStanza (hact : Moving act) (link : Nat) (stanza : Xml.Element) (w : World) :
    Moves w (w.deliverStanza act link stanza).1 :=
  (informs_deliverStanza hact (fun _ => trivial) link stanza w).proceeds (by simp)

theorem moves_handOut (hact : Moving act) (link : Nat) (es : List Xml.Element) (w : World) :
    Moves w (handOut act link es w) := by
  induction es generalizing w with
  | nil => exact Proceeds.refl w
  | cons e es ih =>
    unfold handOut
    split
    · exact (moves_deliverStanza hact link e w).trans (ih _)
    · exact Proceeds.refl w

theorem moves_takeBody (hact : Moving act) (link : Nat) (body : Xml.Element) (w : World) :
    Moves w (w.takeBody act link body) := by
  have hannounced : Moves w (w.tell act (.link link .response) (.stanza body)) := proceeds_tell hact (by simp) _ w
  unfold takeBody
  simp only []
  split
  · have hopened := hannounced.trans (moves_stepSession hact link (.openBody body) _)
    split
    · exact hopened
    · exact (hopened.trans (moves_handOut hact link _ _)).trans (moves_stepSession hact link _ _)
  · exact hannounced

theorem moves_takeReply (hact : Moving act) (link : Nat) (request : String) (reply : Bosh.Reply) (w : World) :
    Moves w (w.takeReply act link request reply) := by
  have hanswered := moves_stepSession hact link (.answer request reply) w
  unfold takeReply
  simp only []
  split
  · exact hanswered.trans (moves_takeBody hact link _ _)
  · exact hanswered

/-! ## Procedures -/

theorem moves_connectOn (hact : Moving act) (link : Nat) (w : World) :
    Moves w (w.connectOn act link).1 := by
  unfold connectOn
  split
  · exact Proceeds.refl w
  · refine .trans ?_ (moves_stepSession hact link _ _)
    split
    · exact Proceeds.refl w
    · exact .of_parts rfl

theorem moves_newManager (link : Nat) (w : World) : Moves w (w.newManager link).1 := by
  have hnew : Moves w { w with managers := w.managers ++ [({ link, nonce := .ok w.nonce } : Manager)] } := by
    refine .of_quiet ⟨fun _ _ hs => hs, fun hub => ?_, rfl, Nat.le_refl _, fun _ _ hp => hp, [],
      (List.append_nil _).symm, List.forall_mem_nil _⟩ rfl
    cases hub with
    | link => rfl
    | results id =>
      rcases getD_concat_or Manager.results w.managers { link, nonce := .ok w.nonce } id with h | ⟨h, hnone⟩
      · exact h
      · exact h.trans hnone.symm
  exact hnew.trans (proceeds_addListener (.link link .received) (.manager w.managers.length) _)

theorem moves_subscribeTo (hub : Hub) (w : World) : Moves w (w.subscribeTo hub).1 := by
  exact Proceeds.trans (.of_quiet (quiet_openMailbox w) rfl) (proceeds_addListener _ _ _)

theorem moves_authorize (hact : Moving act) (id : Nat) (account : Account) (mechanisms : Xml.Element)
    (w : World) : Moves w (w.authorize act id account mechanisms).1 := by
  unfold authorize
  split
  · exact Proceeds.refl w
  · split
    · exact Proceeds.refl w
    · refine .trans ?_ (moves_sendOn hact _ _ _)
      exact proceeds_modifyManager (by intro; rfl) id w

theorem moves_closeMailbox (box : Nat) (w : World) : Moves w (w.closeMailbox box) := by
  refine proceeds_modifyMailbox (fun b hb => ?_) box w
  cases hb

theorem moves_keep (box : Nat) (content : List Mail) (w : World) : Moves w (w.keep box content) := by
  refine proceeds_modifyMailbox (fun b hb => ?_) box w
  exact hb

theorem moves_await (box : Nat) (t : Task) (w : World) : Moves w (w.await box t) := by
  refine proceeds_modifyMailbox (fun b hb => ?_) box w
  exact hb

theorem moves_closeMailboxes (boxes : List Nat) (w : World) :
    Moves w (boxes.foldl (fun w b => w.closeMailbox b) w) := by
  induction boxes generalizing w with
  | nil => exact Proceeds.refl w
  | cons b boxes ih => exact (moves_closeMailbox b w).trans (ih _)

theorem moves_finishLogin (id : Nat) (outcome : Except ClientError Jid) (w : World) :
    Moves w (w.finishLogin id outcome) := by
  unfold finishLogin
  split
  · exact Proceeds.refl w
  · next l _ =>
    have hfinished : Moves w (((loginMailboxes l.phase).foldl (fun w b => w.closeMailbox b) w).setLoginPhase id
        .finished) := (moves_closeMailboxes _ w).then_parts rfl
    exact hfinished.trans (proceeds_note (fun _ => ⟨rfl, rfl⟩) _)

theorem moves_concludeLogin (hact : Moving act) (id link : Nat) (outcome : Except AuthError Jid) (w : World) :
    Moves w (w.concludeLogin act id link outcome) := by
  cases outcome with
  | ok jid =>
    have hrestarted := moves_stepSession hact link .restart w
    exact (hrestarted.trans (moves_stepSession hact link .flush _)).trans (moves_finishLogin _ _ _)
  | error e => exact (moves_stepSession hact link .disconnect w).trans (moves_finishLogin _ _ _)

theorem moves_defer (t : Task) (w : World) : Moves w (w.defer t) := by
  unfold defer
  split <;> exact .of_parts rfl

theorem moves_consult (id budget box states : Nat) (w : World) :
    Moves w (w.consult id budget box states).1 := by
  unfold consult
  simp only []
  have hleft (mail mail' : List Mail) : Moves w ((w.keep box mail).keep states mail') :=
    (moves_keep box mail w).trans (moves_keep states mail' _)
  split
  · exact hleft _ _
  · split
    · exact (hleft _ _).trans (moves_defer _ _)
    · exact (moves_await box _ w).trans (moves_await states _ _)

theorem moves_awaitResult (hact : Moving act) (id budget link states results : Nat) (w : World) :
    Moves w (w.awaitResult act id budget link states results) := by
  have hread : Moves w (w.consult id budget results states).1 := moves_consult id budget results states w
  unfold awaitResult
  split
  · next heq =>
    rw [heq] at hread
    exact hread.trans (moves_concludeLogin hact _ _ _ _)
  · next heq =>
    rw [heq] at hread
    exact hread.trans (moves_finishLogin _ _ _)
  · next heq =>
    rw [heq] at hread
    exact hread

theorem moves_beginLogin (hact : Moving act) (id budget : Nat) (l : Login) (stanzas states manager : Nat)
    (mechanisms : Xml.Element) (w : World) :
    Moves w (w.beginLogin act id budget l stanzas states manager mechanisms) := by
  unfold beginLogin
  split
  · exact moves_defer _ w
  · simp only []
    generalize hw' : ((w.subscribeTo (.results manager)).1.setLoginPhase id
      (.authenticating stanzas states manager (w.subscribeTo (.results manager)).2)) = w'
    have hlistens : Moves w w' := by
      rw [← hw']
      exact (moves_subscribeTo (.results manager) w).then_parts rfl
    have hbegun := hlistens.trans (moves_authorize hact manager l.account mechanisms w')
    split
    · next heq =>
      rw [heq] at hbegun
      exact hbegun.trans (moves_concludeLogin hact _ _ _ _)
    · next heq =>
      rw [heq] at hbegun
      exact hbegun.trans (moves_awaitResult hact _ _ _ _ _ _)

theorem moves_awaitOffer (hact : Moving act) (id budget : Nat) (l : Login) (stanzas states manager : Nat)
    (w : World) : Moves w (w.awaitOffer act id budget l stanzas states manager) := by
  have hread : Moves w (w.consult id budget stanzas states).1 := moves_consult id budget stanzas states w
  unfold awaitOffer
  split
  · next heq =>
    rw [heq] at hread
    refine .trans ?_ (moves_beginLogin hact _ _ _ _ _ _ _ _)
    exact hread.then_parts rfl
  · next heq =>
    rw [heq] at hread
    exact hread.trans (moves_finishLogin _ _ _)
  · next heq =>
    rw [heq] at hread
    exact hread

theorem moves_enterLogin (hact : Moving act) (id : Nat) (l : Login) (w : World) :
    Moves w (w.enterLogin act id l) := by
  unfold enterLogin
  simp only []
  have hstanzas : Moves w (w.subscribeTo (.link l.link .received)).1 := moves_subscribeTo _ w
  have hstates := hstanzas.trans (moves_subscribeTo (.link l.link .state) _)
  have hmanager := hstates.trans (moves_newManager l.link _)
  generalize hw' : World.setLoginPhase _ _ _ = w'
  have hready : Moves w w' := hw' ▸ hmanager.then_parts rfl
  have hconnected := hready.trans (moves_connectOn hact l.link w')
  split
  · next heq =>
    rw [heq] at hconnected
    exact hconnected.trans (moves_finishLogin _ _ _)
  · next heq =>
    rw [heq] at hconnected
    exact hconnected.trans (moves_awaitOffer hact _ _ _ _ _ _ _)

theorem moves_resumeLogin (hact : Moving act) (id : Nat) (w : World) :
    Moves w (w.resumeLogin act id) := by
  unfold resumeLogin
  split
  · exact Proceeds.refl w
  · next l _ =>
    split
    · exact moves_enterLogin hact id l w
    · exact moves_awaitOffer hact _ _ _ _ _ _ w
    · exact moves_beginLogin hact _ _ _ _ _ _ _ w
    · exact moves_awaitResult hact _ _ _ _ _ w
    · exact Proceeds.refl w

theorem moves_finishAuthentication (id : Nat) (outcome : Except AuthError Jid) (w : World) :
    Moves w (w.finishAuthentication id outcome) := by
  unfold finishAuthentication
  split
  · exact Proceeds.refl w
  · simp only []
    refine .trans ?_ (proceeds_note (fun _ => ⟨rfl, rfl⟩) _)
    split
    · exact (moves_closeMailbox _ w).then_parts rfl
    all_goals exact .of_parts rfl

theorem moves_awaitOutcome (id results : Nat) (w : World) : Moves w (w.awaitOutcome id results) := by
  unfold awaitOutcome
  split
  · exact moves_finishAuthentication _ _ w
  · exact moves_await _ _ w

theorem moves_enterAuthentication (hact : Moving act) (id : Nat) (a : Authentication) (w : World) :
    Moves w (w.enterAuthentication act id a) := by
  unfold enterAuthentication
  simp only []
  generalize hw' : World.setAuthenticationPhase _ _ _ = w'
  have hlistens : Moves w w' := by
    rw [← hw']
    exact (moves_subscribeTo (.results a.manager) w).then_parts rfl
  have hbegun := hlistens.trans (moves_authorize hact a.manager a.account a.mechanisms w')
  split
  · next heq =>
    rw [heq] at hbegun
    exact hbegun.trans (moves_finishAuthentication _ _ _)
  · next heq =>
    rw [heq] at hbegun
    exact hbegun.trans (moves_awaitOutcome _ _ _)

theorem moves_resumeAuthentication (hact : Moving act) (id : Nat) (w : World) :
    Moves w (w.resumeAuthentication act id) := by
  unfold resumeAuthentication
  split
  · exact Proceeds.refl w
  · next a _ =>
    split
    · exact moves_enterAuthentication hact id a w
    · exact moves_awaitOutcome id _ w
    · exact Proceeds.refl w

/-! ## Commands -/

theorem moves_adoptLink {l : Link} (hl : ∀ topic, l.registry topic = {} ∨ l.registry topic = recorded) (w : World) :
    Moves w (w.adoptLink l) :=
  .of_evolves (.adopts hl w) (List.forall_mem_nil _) rfl

theorem moves_withSession {go : Nat → Bosh.Session → World × Answer}
    (hgo : ∀ link s, Moves w (go link s).1) : Moves w (w.withSession go).1 := by
  unfold withSession
  split
  · exact Proceeds.refl w
  · split
    · exact Proceeds.refl w
    · exact hgo _ _

theorem moves_withLink {go : Nat → World × Answer} (hgo : ∀ link, Moves w (go link).1) :
    Moves w (w.withLink go).1 := by
  unfold withLink
  split
  · exact Proceeds.refl w
  · exact hgo _

theorem moves_withManager {go : Nat → World × Answer} (hgo : ∀ id, Moves w (go id).1) :
    Moves w (w.withManager go).1 := by
  refine moves_withLink fun _ => ?_
  split
  · exact Proceeds.refl w
  · exact hgo _

theorem moves_withOffer {account : AccountText} {offer : Offer} {go : Account → Xml.Element → World × Answer}
    (hgo : ∀ account mechanisms, Moves w (go account mechanisms).1) :
    Moves w (w.withOffer account offer go).1 := by
  unfold withOffer
  split
  · exact Proceeds.refl w
  · split
    · exact Proceeds.refl w
    · exact hgo _ _

theorem moves_addScript (hub : Hub) (s : Script) (w : World) : Moves w (w.addScript hub s) := by
  have hadded : Moves w { w with scripts := w.scripts ++ [s] } := fun _ =>
    ⟨fun _ _ _ _ => trivial, [], .quiet (quiet_addScript s w), List.forall_mem_nil _⟩
  exact hadded.trans (proceeds_addListener _ _ _)

theorem moves_performOnLink (hact : Moving act) (c : Command) (w : World) :
    Moves w (w.performOnLink act c).1 := by
  cases c with
  | connect =>
    refine moves_withLink fun link => ?_
    have hconnected : Moves w (w.connectOn act link).1 := moves_connectOn hact link w
    cases hout : w.connectOn act link with
    | mk w' out =>
      rw [hout] at hconnected
      cases out <;> exact hconnected
  | disconnect | flush | restartStream | setSettings | setTimings =>
    exact moves_withSession fun link _ => moves_stepSession hact link _ w
  | send xml =>
    refine moves_withLink fun link => ?_
    split
    · exact Proceeds.refl w
    · exact moves_sendOn hact link _ w
  | pause =>
    refine moves_withSession fun link s => ?_
    split
    · exact Proceeds.refl w
    · exact (moves_stepSession hact link .pause w).then_parts rfl
  | resume stream =>
    refine moves_withSession fun link _ => ?_
    split
    · exact Proceeds.refl w
    · exact moves_stepSession hact link _ w
  | settings => exact moves_withSession fun _ _ => Proceeds.refl w
  | listen topic tag actions times verdict =>
    exact moves_withLink fun link => moves_addScript (.link link topic) { tag, actions, left := times, verdict } w
  | subscribe name stanzas =>
    exact moves_withLink fun link =>
      (moves_subscribeTo (.link link (if stanzas then .received else .state)) w).then_parts rfl
  | newManager =>
    refine moves_withLink fun link => ?_
    have hmanager : Moves w { (w.newManager link).1 with manager := some (w.newManager link).2 } :=
      (moves_newManager link w).then_parts rfl
    exact hmanager.trans (proceeds_addListener (.results (w.newManager link).2) .recorder _)
  | login account =>
    refine moves_withLink fun link => ?_
    split <;> exact .of_parts rfl
  | newLink =>
    refine moves_withSession fun _ _ => moves_adoptLink (fun topic => .inr ?_) w
    cases topic <;> rfl
  | receive xml =>
    refine moves_withLink fun link => ?_
    split
    · exact Proceeds.refl w
    · exact moves_deliverStanza hact link _ w
  | advance => exact moves_withLink fun _ => Proceeds.refl w
  | _ => exact Proceeds.refl w

theorem moves_performOnManager (hact : Moving act) (c : Command) (w : World) :
    Moves w (w.performOnManager act c).1 := by
  refine moves_withManager fun id => ?_
  cases c with
  | handle xml =>
    dsimp only
    split
    · exact Proceeds.refl w
    · next stanza _ =>
      have hhandled : Moves w (w.handle act id stanza).1 := moves_handle hact id stanza w
      cases hout : w.handle act id stanza with
      | mk w' error =>
        rw [hout] at hhandled
        cases error <;> exact hhandled
  | setNonce nonce => exact proceeds_modifyManager (by intro; rfl) id w
  | authorize account offer =>
    refine moves_withOffer fun account mechanisms => ?_
    have hasked : Moves w (w.authorize act id account mechanisms).1 :=
      moves_authorize hact id account mechanisms w
    cases hout : w.authorize act id account mechanisms with
    | mk w' out =>
      rw [hout] at hasked
      cases out <;> exact hasked
  | authenticate account offer => exact moves_withOffer fun _ _ => .of_parts rfl
  | onResult tag actions times verdict =>
    exact moves_addScript (.results id) { tag, actions, left := times, verdict } w
  | subscribeResults name => exact (moves_subscribeTo (.results id) w).then_parts rfl
  | drainResults name =>
    dsimp only
    split
    · exact Proceeds.refl w
    · exact moves_keep _ [] w
  | unsubscribeResults name =>
    dsimp only
    split
    · exact Proceeds.refl w
    · exact (moves_closeMailbox _ w).then_parts rfl
  | dropManager => exact .of_parts rfl
  | _ => exact Proceeds.refl w

theorem moves_perform (hact : Moving act) : Moving (perform act) := by
  intro c _ w
  cases c with
  | reply target reply =>
    simp only [perform]
    split
    · exact Proceeds.refl w
    · next index _ =>
      have hreplied : Moves w { w with
          exchanges := w.exchanges.modify index fun x => { x with reply := some reply } } :=
        .of_quiet (quiet_reply index reply w) rfl
      exact hreplied.then_parts (by rw [wake_eq]; rfl)
  | drain name =>
    simp only [perform]
    split
    · exact Proceeds.refl w
    · exact moves_keep _ [] w
  | unsubscribe name =>
    simp only [perform]
    split
    · exact Proceeds.refl w
    · exact (moves_closeMailbox _ w).then_parts rfl
  | drop => exact moves_withLink fun _ => .of_parts rfl
  | handle | setNonce | authorize | authenticate | onResult | subscribeResults | drainResults | unsubscribeResults
  | dropManager => exact moves_performOnManager hact _ w
  | _ => exact moves_performOnLink hact _ w

theorem moves_performWithin (n : Nat) : Moving (performWithin n) := by
  induction n with
  | zero => exact fun _ _ w => Proceeds.refl w
  | succ n ih => exact moves_perform ih

/-! ## Turns -/

theorem moves_goOff (due link : Nat) (alarm : Bosh.Alarm) (w : World) : Moves w (w.goOff due link alarm) := by
  have hfired := moves_stepSession (moves_performWithin w.reach) link (.fire alarm) w
  unfold goOff
  split
  · cases alarm with
    | heartbeat => exact hfired.then_parts rfl
    | _ => exact hfired
  · exact Proceeds.refl w

theorem moves_runTask (t : Task) (w : World) : Moves w (w.runTask t) := by
  have hact := moves_performWithin w.reach
  cases t with
  | exchange id =>
    simp only [runTask]
    split
    · split
      · exact moves_takeReply hact _ _ _ w
      · exact Proceeds.refl w
    · exact Proceeds.refl w
  | alarm due link alarm =>
    simp only [runTask]
    split
    · exact moves_goOff due link alarm w
    · exact .of_parts rfl
  | login id => exact moves_resumeLogin hact id w
  | authentication id => exact moves_resumeAuthentication hact id w

theorem moves_turn (t : Turn) (w : World) : Moves w (w.turn t) := by
  cases t with
  | command c => exact moves_performWithin _ c trivial w
  | task =>
    simp only [turn]
    split
    · exact Proceeds.refl w
    · refine .trans ?_ (moves_runTask _ _)
      exact .of_parts rfl
  | refill | ripen => exact .of_parts rfl

/-- **Nothing else ever happens.** Whatever a program does, and whatever its handlers do when they are called, it is
steps of sessions and events, inside of each other. -/
theorem evolves_after (ts : List Turn) (w : World) : ∃ ds, Evolves w ds (w.after ts) := by
  have hafter : Moves w (w.after ts) := by
    induction ts generalizing w with
    | nil => exact Proceeds.refl w
    | cons t ts ih => exact (moves_turn t w).trans (ih _)
  obtain ⟨-, ds, hevolves, -⟩ := hafter fun _ _ _ _ => trivial
  exact ⟨ds, hevolves⟩

/-- **What happens at the hubs of a program.** Registrations of listeners and announcements, inside of each other, and
every call of a recorder among them shows in the log, in this order, and nothing else does. -/
theorem unfolds_after (ts : List Turn) (w : World) : ∃ ds, Evolves w ds (w.after ts) ∧
    ∀ hub, GoesAt hub w (ds.filterMap (Deed.happening? hub)) (w.after ts) ∧
      heardSince hub w (w.after ts) = ds.filterMap (Deed.noted? hub) := by
  obtain ⟨ds, hevolves⟩ := evolves_after ts w
  exact ⟨ds, hevolves, fun hub => ⟨hevolves.goes hub, hevolves.heard hub⟩⟩

def failureText : String := "<failure xmlns='urn:ietf:params:xml:ns:xmpp-sasl'/>"

/-- A program with an authentication, and with two handlers for its results. The first one has a failure come in when
it is called, and the second one is through. -/
def nagging : World :=
  let w := (({ starts := fun _ => 0, nonce := "" } : World).newBareLink).adoptManager 0
  ((w.ask (.onResult "a" [.handle failureText] 1 .ok)).1.ask (.onResult "b" [] 1 .closed)).1

/-- An event inside of another one: the second handler is called again after it has said that it is through. -/
example : ((nagging.run (.handle failureText)).1.log.filterMap fun
    | .listener tag => some tag
    | _ => none) = ["a", "a", "b", "b"] := by
  decide +kernel

/-- Registrations always have numbers of their own. -/
theorem numbered_after (hn : (w.registry hub).Numbered) (ts : List Turn) : ((w.after ts).registry hub).Numbered :=
  (evolves_after ts w).elim fun _ h => h.numbered hn

end World

end XmppBosh.Client
