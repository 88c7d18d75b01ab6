import XmppBosh.Proofs.Bosh.Announcement
import XmppBosh.Proofs.Bosh.Quiet
import XmppBosh.Proofs.Client.Hearing
import XmppBosh.Proofs.Sasl.Results

/-!
# What a login has to itself

A login is the only user of a link. Its manager and its mailboxes are its own, so that what it finds in them comes
from the link and from what it has asked the manager for.

* `Reserved` : a program with a single link, no manager of its own, and no listeners that run commands;
* `Attends` : the mail of a login says what is so: a session that is said to have ended has ended, and a result is
  one of those that the manager came to with what it was asked for;
* `Serves`, `Comes` : something has happened that is none of a login's doing: a link at rest is still at rest, no
  login has come to anything, and the mail of the login says what is so;
* `Comes.change`, `Comes.still` : what may change for that;
* `Comes.tell`, `Comes.stepSession`, `Comes.sendOn`, `Comes.handle` : events, steps of the session other than a new
  session or a new stream, stanzas that go out, and stanzas that the manager takes.
-/

namespace XmppBosh.Client

open Sasl (Attempt Operation)
open Sasl.Negotiation (operate attemptAfter begins results)

def Event.login? : Event → Option (Except ClientError Jid)
  | .login outcome => some outcome
  | _ => none

namespace World

variable {act : Act} {w w' w₀ : World}

/-! ## The link -/

/-- The link is not active, and has no identifier. -/
def Rest (w : World) : Prop := ∃ s, w.session? 0 = some s ∧ s.active = false ∧ s.sid? = none

/-- There is something to post on the link, and somewhere to post it, and nobody has asked for a new stream. -/
def Opened (w : World) : Prop :=
  ∃ s, w.session? 0 = some s ∧ s.settings.isSome ∧ s.stream.isSome ∧ s.NoRestart

def attemptOf (manager : Nat) (w : World) : Option Attempt := (w.managers[manager]?).bind Manager.attempt

/-- A program has a single link, and listeners that run commands are not on it. -/
structure Reserved (w : World) : Prop where
  link : w.link = some 0
  links : w.links.length = 1
  manager : w.manager = none
  scripts : w.scripts = []
  session : ∃ s, w.session? 0 = some s ∧ s.Sound
  authentications : ∀ a ∈ w.authentications, a.phase = .finished
  numbered : (w.registry (.link 0 .received)).Numbered
  known : ∀ i, .manager i ∈ (w.registry (.link 0 .received)).toList → i < w.managers.length

/-- What a login has to itself: its mailboxes, from the first one on, and its manager, registered under a
number. -/
structure Seat where
  first : Nat
  manager : Nat
  number : Nat

/-- What a piece of mail says is so. -/
def Good (asked : Option (List Operation)) (w : World) : Mail → Prop
  | .notice n => (ending? n).isSome → w.Rest
  | .result r => ∃ ops, asked = some ops ∧ r ∈ results ops
  | .stanza _ => True

/-- The mail of a login says what is so, and its manager has come to what it was asked, if it was asked for an
attempt. -/
structure Attends (seat : Seat) (asked : Option (List Operation)) (w : World) : Prop extends Reserved w where
  alive : ∀ i, w.managerAlive i → i = seat.manager
  linked : w.managerAlive seat.manager → ∃ m, w.managers[seat.manager]? = some m ∧ m.link = 0
  listed : w.managerAlive seat.manager →
    (seat.number, .manager seat.manager) ∈ (w.registry (.link 0 .received)).entries
  once : w.managerAlive seat.manager →
    ∀ n, (n, .manager seat.manager) ∈ (w.registry (.link 0 .received)).entries → n = seat.number
  attempt : ∀ ops, asked = some ops →
    w.managerAlive seat.manager ∧ w.attemptOf seat.manager = attemptAfter ops
  unasked : asked = none → w.attemptOf seat.manager = none ∧
    ∀ box, .mailbox box ∉ (w.registry (.results seat.manager)).toList
  first : seat.first ≤ w.mailboxes.length
  mail : ∀ box, seat.first ≤ box → ∀ mail ∈ w.content box, Good asked w mail

/-- No login has come to anything. -/
def Silent (w w' : World) : Prop := ∃ new, w'.log = w.log ++ new ∧ ∀ e ∈ new, e.login? = none

theorem Silent.of_log (h : w'.log = w.log) : Silent w w' := ⟨[], by rw [h, List.append_nil], List.forall_mem_nil _⟩

theorem Silent.trans (h : Silent w₀ w) (h' : Silent w w') : Silent w₀ w' := by
  obtain ⟨new, hlog, hnew⟩ := h
  obtain ⟨new', hlog', hnew'⟩ := h'
  exact ⟨new ++ new', by rw [hlog', hlog, List.append_assoc], List.forall_mem_append.2 ⟨hnew, hnew'⟩⟩

/-- The server has done something. -/
structure Serves (w w' : World) : Prop where
  logins : w'.logins = w.logins
  rest : w.Rest → w'.Rest
  opened : w.Opened → w'.Opened
  silent : Silent w w'

theorem Serves.refl (w : World) : Serves w w := ⟨rfl, id, id, .of_log rfl⟩

theorem Serves.trans (h : Serves w₀ w) (h' : Serves w w') : Serves w₀ w' :=
  ⟨h'.logins.trans h.logins, fun hr => h'.rest (h.rest hr), fun ho => h'.opened (h.opened ho),
    h.silent.trans h'.silent⟩

/-- The server has done something, and the login attends to it. -/
structure Comes (seat : Seat) (asked : Option (List Operation)) (w w' : World) : Prop where
  serves : Serves w w'
  attends : Attends seat asked w'

variable {seat : Seat} {asked asked' : Option (List Operation)} {mail : Mail}

theorem Comes.refl (h : Attends seat asked w) : Comes seat asked w w := ⟨.refl w, h⟩

theorem Comes.trans (h : Comes seat asked w₀ w) (h' : Comes seat asked' w w') : Comes seat asked' w₀ w' :=
  ⟨h.serves.trans h'.serves, h'.attends⟩

theorem Good.of_rest (h : Good asked w mail) (hrest : w.Rest → w'.Rest) : Good asked w' mail := by
  cases mail with
  | notice n => exact fun hn => hrest (h hn)
  | result r => exact h
  | stanza e => trivial

/-! ## One change -/

/-- The program uses its link and its managers as before. -/
structure Keeps (w w' : World) : Prop where
  link : w'.link = w.link
  links : w'.links.length = w.links.length
  manager : w'.manager = w.manager
  scripts : w'.scripts = w.scripts
  authentications : w'.authentications = w.authentications
  logins : w'.logins = w.logins
  managers : w'.managers.map Manager.link = w.managers.map Manager.link
  mailboxes : w.mailboxes.length ≤ w'.mailboxes.length

theorem Keeps.managerAlive (h : Keeps w w') (i : Nat) : w'.managerAlive i = w.managerAlive i := by
  rw [World.managerAlive, h.manager, h.logins, h.authentications, World.managerAlive]

theorem Keeps.length (h : Keeps w w') : w'.managers.length = w.managers.length := by
  simpa using congrArg List.length h.managers

theorem Attends.change (h : Attends seat asked w) (hk : Keeps w w')
    (hsession : ∃ s, w'.session? 0 = some s ∧ s.Sound)
    (hreceived : ∃ p, w'.registry (.link 0 .received) = (w.registry (.link 0 .received)).sift p ∧
      (w.managerAlive seat.manager → p (seat.number, .manager seat.manager)))
    (hattempt : ∀ ops, asked' = some ops →
      w.managerAlive seat.manager ∧ w'.attemptOf seat.manager = attemptAfter ops)
    (hunasked : asked' = none → w'.attemptOf seat.manager = none ∧
      ∀ box, .mailbox box ∉ (w'.registry (.results seat.manager)).toList)
    (hmail : ∀ box, seat.first ≤ box → ∀ mail ∈ w'.content box, Good asked' w' mail) : Attends seat asked' w' := by
  obtain ⟨p, hsift, hp⟩ := hreceived
  have hsub : (w'.registry (.link 0 .received)).entries ⊆ (w.registry (.link 0 .received)).entries := by
    rw [hsift]
    exact List.filter_sublist.subset
  have hreserved : w'.Reserved := ⟨hk.link.trans h.link, hk.links.trans h.links, hk.manager.trans h.manager,
    hk.scripts.trans h.scripts, hsession, hk.authentications ▸ h.authentications, hsift ▸ h.numbered.sift p,
    fun i hi => hk.length ▸ h.known i (List.map_subset _ hsub hi)⟩
  refine ⟨hreserved, fun i hi => h.alive i (hk.managerAlive i ▸ hi), fun halive => ?_, fun halive => ?_,
    fun halive n hn => h.once (hk.managerAlive _ ▸ halive) n (hsub hn), fun ops hops => ?_, hunasked,
    Nat.le_trans h.first hk.mailboxes, hmail⟩
  · obtain ⟨m, hm, hlink⟩ := h.linked (hk.managerAlive _ ▸ halive)
    have hlinked := congrArg (·[seat.manager]?) hk.managers
    simp only [List.getElem?_map, hm, Option.map_some, hlink] at hlinked
    exact Option.map_eq_some_iff.1 hlinked
  · rw [hsift]
    exact List.mem_filter.2 ⟨h.listed (hk.managerAlive _ ▸ halive), hp (hk.managerAlive _ ▸ halive)⟩
  · exact hk.managerAlive _ ▸ hattempt ops hops

theorem managers_modifyManager (id : Nat) (change : Manager → Manager) (hchange : ∀ m, (change m).link = m.link)
    (w : World) : (w.modifyManager id change).managers.map Manager.link = w.managers.map Manager.link := by
  apply List.ext_getElem?
  intro i
  by_cases hi : id = i
  · cases hm : w.managers[i]? <;> simp [modifyManager, hi, hm, hchange]
  · simp [modifyManager, hi]

theorem Comes.change (h : Comes seat asked w₀ w) (hk : Keeps w w')
    (hsession : w'.session? 0 = w.session? 0) (hsilent : Silent w w')
    (hreceived : ∃ p, w'.registry (.link 0 .received) = (w.registry (.link 0 .received)).sift p ∧
      (w.managerAlive seat.manager → p (seat.number, .manager seat.manager)))
    (hattempt : ∀ ops, asked' = some ops →
      w.managerAlive seat.manager ∧ w'.attemptOf seat.manager = attemptAfter ops)
    (hunasked : asked' = none → w'.attemptOf seat.manager = none ∧
      ∀ box, .mailbox box ∉ (w'.registry (.results seat.manager)).toList)
    (hmail : ∀ box, seat.first ≤ box → ∀ mail ∈ w'.content box, Good asked' w mail) : Comes seat asked' w₀ w' := by
  have hrest : w.Rest → w'.Rest := by
    rw [Rest, Rest, hsession]
    exact id
  have hopened : w.Opened → w'.Opened := by
    rw [Opened, Opened, hsession]
    exact id
  refine ⟨h.serves.trans ⟨hk.logins, hrest, hopened, hsilent⟩, ?_⟩
  exact h.attends.change hk (hsession ▸ h.attends.session) hreceived hattempt hunasked
    fun box hbox mail hmem => (hmail box hbox mail hmem).of_rest hrest

/-- Nothing changes but the time, what waits and is ready, mail, and the log. -/
def Still (w w' : World) : Prop := w' = { w with
  now := w'.now, sessions := w'.sessions, exchanges := w'.exchanges, mailboxes := w'.mailboxes, queue := w'.queue
  deferred := w'.deferred, timers := w'.timers, log := w'.log }

theorem Comes.still (h : Comes seat asked w₀ w) (hstill : Still w w')
    (hlength : w'.mailboxes.length = w.mailboxes.length) (hsilent : Silent w w')
    (hmail : ∀ box, seat.first ≤ box → ∀ mail ∈ w'.content box, mail ∈ w.content box ∨ Good asked w mail) :
    Comes seat asked w₀ w' := by
  have hregistry : ∀ hub, w'.registry hub = w.registry hub := by
    intro hub
    rw [hstill]
    cases hub <;> rfl
  have hattempt : w'.attemptOf seat.manager = w.attemptOf seat.manager := by
    rw [hstill]
    rfl
  refine h.change ?_ (by rw [hstill]; rfl) hsilent ⟨fun _ => true, ?_, fun _ => rfl⟩ (fun ops hops => ?_) ?_
    fun box hbox mail hmem => ?_
  · refine ⟨?_, ?_, ?_, ?_, ?_, ?_, ?_, Nat.le_of_eq hlength.symm⟩ <;> rw [hstill]
  · rw [hregistry, Registry.sift_true]
  · rw [hattempt]
    exact h.attends.attempt ops hops
  · rw [hattempt, hregistry]
    exact h.attends.unasked
  · exact (hmail box hbox mail hmem).elim (h.attends.mail box hbox mail) id

theorem Comes.heard {hub : Hub} {ls : List Listener} (h : Comes seat asked w₀ w) (hh : Heard hub mail ls w w')
    (hmail : (∃ box, .mailbox box ∈ ls) → Good asked w mail) : Comes seat asked w₀ w' := by
  refine h.still ?_ hh.length ⟨_, hh.log, fun e he => ?_⟩ fun box hbox m hm => ?_
  · rw [Still, hh.same]
  · rw [List.eq_of_mem_replicate he]
    rfl
  · rw [hh.content, List.mem_append] at hm
    refine hm.imp_right fun hm => ?_
    obtain ⟨hne, rfl⟩ := List.mem_replicate.1 hm
    refine hmail ⟨box, ?_⟩
    split at hne
    · exact List.count_pos_iff.1 (Nat.pos_of_ne_zero hne)
    · exact absurd rfl hne

/-! ## Listeners -/

theorem Comes.sift (h : Comes seat asked w₀ w) (hub : Hub) (p : Nat × Listener → Bool)
    (hp : hub = .link 0 .received → w.managerAlive seat.manager → p (seat.number, .manager seat.manager)) :
    Comes seat asked w₀ (w.updateRegistry hub (Registry.sift p)) := by
  have hregistry : ∀ other, (w.updateRegistry hub (Registry.sift p)).registry other =
      if other = hub then (w.registry hub).sift p else w.registry other :=
    fun other => registry_updateRegistry rfl hub other w
  have hattempt : (w.updateRegistry hub (Registry.sift p)).attemptOf seat.manager = w.attemptOf seat.manager := by
    cases hub with
    | link => rfl
    | results id =>
      by_cases hid : id = seat.manager
      · cases hm : w.managers[seat.manager]? <;> simp [updateRegistry, modifyManager, attemptOf, hid, hm]
      · simp [updateRegistry, modifyManager, attemptOf, hid]
  refine h.change ?_ (session?_updateRegistry ..) (.of_log ?_) ?_ (fun ops hops => ?_)
    (fun hnone => ⟨?_, fun box hbox => ?_⟩) fun box hbox mail hmem => ?_
  · cases hub with
    | link => exact ⟨rfl, List.length_modify .., rfl, rfl, rfl, rfl, rfl, Nat.le_refl _⟩
    | results id =>
      exact ⟨rfl, rfl, rfl, rfl, rfl, rfl, managers_modifyManager id
        (fun m => { m with results := m.results.sift p }) (fun _ => rfl) w, Nat.le_refl _⟩
  · cases hub <;> rfl
  · rw [hregistry]
    split
    · next heq => exact ⟨p, by rw [heq], hp heq.symm⟩
    · exact ⟨fun _ => true, (Registry.sift_true _).symm, fun _ => rfl⟩
  · rw [hattempt]
    exact h.attends.attempt ops hops
  · rw [hattempt]
    exact (h.attends.unasked hnone).1
  · refine (h.attends.unasked hnone).2 box ?_
    rw [hregistry] at hbox
    split at hbox
    · next heq => exact heq ▸ List.map_subset _ List.filter_sublist.subset hbox
    · exact hbox
  · rw [content_updateRegistry] at hmem
    exact h.attends.mail box hbox mail hmem

theorem Comes.tell (h : Comes seat asked w₀ w) (act : Act) (hub : Hub) (mail : Mail)
    (hmail : (∃ box, .mailbox box ∈ (w.registry hub).toList) → Good asked w mail) :
    Comes seat asked w₀ (w.tell act hub mail) := by
  have hpruned : Comes seat asked w₀ (w.updateRegistry hub (Registry.prune w.present)) :=
    h.sift hub (fun e => w.present e.2) fun _ _ => rfl
  refine hpruned.heard (heard_tell act h.attends.scripts hub mail) ?_
  rintro ⟨box, hbox⟩
  refine (hmail ⟨box, List.mem_of_mem_filter hbox⟩).of_rest ?_
  rw [Rest, Rest, session?_updateRegistry]
  exact id

/-! ## Sessions -/

theorem link_of_session {link : Nat} {s : Bosh.Session} (hlinks : w.links.length = 1)
    (hs : w.session? link = some s) : link = 0 := by
  have hlt : link < w.links.length := by
    by_contra hge
    simp [session?, List.getElem?_eq_none (Nat.not_lt.1 hge)] at hs
  omega

theorem Comes.announce (h : Comes seat asked w₀ w) (act : Act) (hub : Hub) {notices : List Bosh.Notice}
    (hnotices : ∀ n ∈ notices, (ending? n).isSome → w.Rest) :
    Comes seat asked w₀ (notices.foldl (fun w n => w.tell act hub (.notice n)) w) := by
  induction notices generalizing w with
  | nil => exact h
  | cons n notices ih =>
    rw [List.forall_mem_cons] at hnotices
    have htold := (Comes.refl h.attends).tell act hub (.notice n) fun _ => hnotices.1
    exact ih (h.trans htold) fun n hn hend => htold.serves.rest (hnotices.2 n hn hend)

theorem login?_posted {first : Nat} {requests : List Bosh.Request} :
    ∀ e ∈ posted first requests, e.login? = none := by
  intro e he
  obtain ⟨r, -, rfl⟩ := List.mem_map.1 he
  rfl

/-- The session of the link has come to another state, and some requests were handed over. -/
structure Steps (s : Bosh.Session) (posts : List Bosh.Request) (w w' : World) : Prop where
  keeps : Keeps w w'
  session : w'.session? 0 = some s
  registry : ∀ hub, w'.registry hub = w.registry hub
  managers : w'.managers = w.managers
  mailboxes : w'.mailboxes = w.mailboxes
  log : w'.log = w.log ++ posted w.exchanges.length posts

theorem Steps.silent {s : Bosh.Session} {posts : List Bosh.Request} (h : Steps s posts w w') : Silent w w' :=
  ⟨_, h.log, login?_posted⟩

theorem steps {s : Bosh.Session} (hs : w.session? 0 = some s) (o : Bosh.Outcome) : Steps o.session o.posts w
    (o.effects.foldl (doEffect 0) (w.modifyLink 0 fun l => { l with session := some o.session })) := by
  obtain ⟨queue, heffects⟩ := doEffects_eq 0 o (w.modifyLink 0 fun l => { l with session := some o.session })
  rw [heffects]
  obtain ⟨l, hl, -⟩ := Option.bind_eq_some_iff.1 hs
  refine ⟨⟨rfl, List.length_modify .., rfl, rfl, rfl, rfl, rfl, Nat.le_refl _⟩, ?_, fun hub => ?_, rfl, rfl, rfl⟩
  · simp [session?, modifyLink, hl]
  · cases hub with
    | results id => rfl
    | link id topic =>
      by_cases hid : 0 = id
      · subst hid
        cases topic <;> simp [registry, modifyLink, hl, Link.registry]
      · simp [registry, modifyLink, hid]

theorem Attends.steps (h : Attends seat asked w) {s : Bosh.Session} (hsound : s.Sound) {posts : List Bosh.Request}
    (hstep : Steps s posts w w') (hmail : ∀ box, seat.first ≤ box → ∀ mail ∈ w.content box, Good asked w' mail) :
    Attends seat asked w' := by
  refine h.change hstep.keeps ⟨s, hstep.session, hsound⟩ ⟨fun _ => true, ?_, fun _ => rfl⟩ (fun ops hops => ?_)
    (fun hnone => ?_) fun box hbox mail hmem => ?_
  · rw [hstep.registry, Registry.sift_true]
  · rw [attemptOf, hstep.managers]
    exact h.attempt ops hops
  · rw [attemptOf, hstep.managers, hstep.registry]
    exact h.unasked hnone
  · rw [World.content, hstep.mailboxes] at hmem
    exact hmail box hbox mail hmem

theorem Rest.steps {s : Bosh.Session} (hs : w.session? 0 = some s) {i : Bosh.Input} (hi : s.begins i = false)
    {now : Nat} {posts : List Bosh.Request} (hstep : Steps (s.step now i).session posts w w') (h : w.Rest) :
    w'.Rest := by
  obtain ⟨t, ht, hactive, hsid⟩ := h
  obtain rfl : t = s := Option.some.inj (ht.symm.trans hs)
  refine ⟨_, hstep.session, ?_⟩
  cases Bosh.Session.step_course hi now with
  | keep active sid => exact ⟨active.trans hactive, sid.trans hsid⟩
  | stop active sid => exact ⟨active, sid⟩
  | establish _ _ _ before => simp [hactive] at before

theorem Opened.steps {s : Bosh.Session} (hs : w.session? 0 = some s) {i : Bosh.Input} (hi : s.begins i = false)
    (hr : i.isRestart = false) {now : Nat} {posts : List Bosh.Request}
    (hstep : Steps (s.step now i).session posts w w') (h : w.Opened) : w'.Opened := by
  obtain ⟨t, ht, hsettings, hstream, hnone⟩ := h
  obtain rfl : t = s := Option.some.inj (ht.symm.trans hs)
  have hretains := Bosh.Session.step_retains now i t
  exact ⟨_, hstep.session, hretains.settings hsettings, hretains.stream hstream, hnone.step hsettings hi hr now⟩

theorem Comes.steps (h : Comes seat asked w₀ w) {s : Bosh.Session} (hs : w.session? 0 = some s) {i : Bosh.Input}
    (hi : s.begins i = false) (hr : i.isRestart = false) {now : Nat} {posts : List Bosh.Request}
    (hstep : Steps (s.step now i).session posts w w') : Comes seat asked w₀ w' := by
  obtain ⟨s', hs', hsound⟩ := h.attends.session
  obtain rfl : s' = s := Option.some.inj (hs'.symm.trans hs)
  refine ⟨h.serves.trans ⟨hstep.keeps.logins, .steps hs hi hstep, .steps hs hi hr hstep, hstep.silent⟩, ?_⟩
  exact h.attends.steps (hsound.step now i) hstep fun box hbox mail hmem =>
    (h.attends.mail box hbox mail hmem).of_rest (.steps hs hi hstep)

theorem Comes.stepSession (h : Comes seat asked w₀ w) (act : Act) (link : Nat) {i : Bosh.Input}
    (hi : ∀ s, w.session? link = some s → s.begins i = false) (hr : i.isRestart = false) :
    Comes seat asked w₀ (w.stepSession act link i) := by
  cases hs : w.session? link with
  | none =>
    rw [World.stepSession, hs]
    exact h
  | some s =>
    obtain rfl := link_of_session h.attends.links hs
    obtain ⟨s', hs', hsound⟩ := h.attends.session
    obtain rfl : s' = s := Option.some.inj (hs'.symm.trans hs)
    have hstep := World.steps hs (s'.step w.now i)
    simp only [World.stepSession, hs]
    refine (h.steps hs (hi s' hs) hr hstep).announce act _ fun n hn hend => ?_
    cases Bosh.Session.step_announced hsound.grounded w.now i with
    | nothing notices => simp [notices] at hn
    | connected notices | waiting _ _ notices =>
      rw [notices, List.mem_singleton] at hn
      subst hn
      cases hend
    | ended _ _ _ _ active sid => exact ⟨_, hstep.session, active, sid⟩

theorem steps_stepSession (act : Act) {s : Bosh.Session} (hs : w.session? 0 = some s) {i : Bosh.Input}
    (hnotices : (s.step w.now i).notices = []) :
    Steps (s.step w.now i).session (s.step w.now i).posts w (w.stepSession act 0 i) := by
  simp only [World.stepSession, hs, hnotices, List.foldl_nil]
  exact World.steps hs _

/-- Announcements leave the session as it is, and the log only grows. -/
theorem announce_eq (act : Act) (hscripts : w.scripts = []) (hub : Hub) (notices : List Bosh.Notice) :
    (notices.foldl (fun w n => w.tell act hub (.notice n)) w).session? 0 = w.session? 0 ∧
      ∃ more, (notices.foldl (fun w n => w.tell act hub (.notice n)) w).log = w.log ++ more := by
  induction notices generalizing w with
  | nil => exact ⟨rfl, [], (List.append_nil _).symm⟩
  | cons n notices ih =>
    obtain ⟨hsession, more, hlog⟩ := ih (scripts_tell act hscripts hub (.notice n))
    obtain ⟨m, htold⟩ := log_tell act hscripts hub (.notice n)
    rw [session?_tell act hscripts] at hsession
    rw [htold, List.append_assoc] at hlog
    exact ⟨hsession, _, hlog⟩

theorem stepSession_eq (act : Act) (hscripts : w.scripts = []) {s : Bosh.Session} (hs : w.session? 0 = some s)
    (i : Bosh.Input) : (w.stepSession act 0 i).session? 0 = some (s.step w.now i).session ∧
      ∃ more, (w.stepSession act 0 i).log =
        w.log ++ posted w.exchanges.length (s.step w.now i).posts ++ more := by
  have hstep := World.steps hs (s.step w.now i)
  have hannounced := announce_eq act (hstep.keeps.scripts.trans hscripts) (.link 0 .state) (s.step w.now i).notices
  rw [hstep.session, hstep.log] at hannounced
  simp only [World.stepSession, hs]
  exact hannounced

theorem Comes.sendOn (h : Comes seat asked w₀ w) (act : Act) (link : Nat) (stanza : Xml.Element) :
    Comes seat asked w₀ (w.sendOn act link stanza) :=
  (h.stepSession act link (fun _ _ => rfl) rfl).tell act _ _ fun _ => trivial

/-! ## The manager -/

theorem Comes.setAttempt (h : Comes seat asked w₀ w) {m : Manager} (hm : w.managers[seat.manager]? = some m)
    {o : Operation} (ho : begins o = false ∨ asked.isSome) : Comes seat (asked.map (· ++ [o])) w₀
      (w.modifyManager seat.manager fun m' => { m' with attempt := (operate o m.attempt).attempt }) := by
  generalize hw' : w.modifyManager seat.manager _ = w'
  have hm' : w'.managers[seat.manager]? = some { m with attempt := (operate o m.attempt).attempt } := by
    simp [← hw', modifyManager, hm]
  refine h.change ?_ (by rw [← hw']; rfl) (.of_log (by rw [← hw']; rfl)) ⟨fun _ => true, ?_, fun _ => rfl⟩
    (fun ops hops => ?_) (fun hnone => ⟨?_, ?_⟩) fun box hbox mail hmem => ?_
  · rw [← hw']
    exact ⟨rfl, rfl, rfl, rfl, rfl, rfl, managers_modifyManager _ (fun m' =>
      { m' with attempt := (operate o m.attempt).attempt }) (fun _ => rfl) w, Nat.le_refl _⟩
  · rw [Registry.sift_true, ← hw']
    rfl
  · obtain ⟨since, hsince, rfl⟩ := Option.map_eq_some_iff.1 hops
    obtain ⟨halive, hattempt⟩ := h.attends.attempt since hsince
    refine ⟨halive, ?_⟩
    rw [attemptOf, hm, Option.bind_some] at hattempt
    rw [attemptOf, hm', Option.bind_some, Sasl.Negotiation.attemptAfter_concat, hattempt]
  · have hasked := Option.map_eq_none_iff.1 hnone
    have hattempt := (h.attends.unasked hasked).1
    rw [attemptOf, hm, Option.bind_some] at hattempt
    rw [attemptOf, hm', Option.bind_some, hattempt]
    exact Sasl.Negotiation.attempt_operate_none (ho.resolve_right (by simp [hasked]))
  · have hresults : w'.registry (.results seat.manager) = w.registry (.results seat.manager) := by
      simp [registry, hm, hm']
    rw [hresults]
    exact (h.attends.unasked (Option.map_eq_none_iff.1 hnone)).2
  · have hgood : Good asked w mail := by
      rw [← hw'] at hmem
      exact h.attends.mail box hbox mail hmem
    cases mail with
    | notice n => exact hgood
    | stanza e => trivial
    | result r =>
      obtain ⟨ops, rfl, hr⟩ := hgood
      exact ⟨_, rfl, (Sasl.Negotiation.results_prefix ops [o]).subset hr⟩

theorem Comes.reply (h : Comes seat asked w₀ w) (act : Act) (link : Nat) (reply : Option Xml.Element) :
    Comes seat asked w₀ (match reply with
      | some reply => w.sendOn act link reply
      | none => w) := by
  cases reply with
  | none => exact h
  | some reply => exact h.sendOn act link reply

theorem Comes.handle (h : Comes seat asked w₀ w) (act : Act) (stanza : Xml.Element)
    (halive : w.managerAlive seat.manager) :
    Comes seat (asked.map (· ++ [.receive stanza])) w₀ (w.handle act seat.manager stanza).1 := by
  obtain ⟨m, hm, hlink⟩ := h.attends.linked halive
  have hset := h.setAttempt hm (o := .receive stanza) (.inl rfl)
  have hresult : ∀ ops r, asked = some ops → (operate (.receive stanza) m.attempt).result = some r →
      r ∈ results (ops ++ [.receive stanza]) := by
    intro ops r hops hr
    have hattempt := (h.attends.attempt ops hops).2
    rw [attemptOf, hm, Option.bind_some] at hattempt
    rw [Sasl.Negotiation.results_concat, ← hattempt, hr]
    simp
  simp only [operate] at hset hresult
  simp only [World.handle, hm, hlink]
  generalize Sasl.Negotiation.receive m.attempt stanza = reaction at hset hresult ⊢
  generalize w.modifyManager seat.manager _ = w₁ at hset ⊢
  have hsent := hset.reply act 0 reaction.reply
  cases hr : reaction.result with
  | none => exact hsent
  | some r =>
    refine hsent.tell act _ _ ?_
    rintro ⟨box, hbox⟩
    cases hasked : asked with
    | none => exact absurd hbox ((hsent.attends.unasked (by rw [hasked]; rfl)).2 box)
    | some ops => exact ⟨_, rfl, hresult ops r hasked hr⟩

end World

end XmppBosh.Client
