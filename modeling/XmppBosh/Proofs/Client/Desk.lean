import XmppBosh.Proofs.Client.Hearing
import XmppBosh.Proofs.Client.Turns
import XmppBosh.Proofs.Sasl.Results

/-!
# A manager at work

A program with one manager of authentications on a bare link. The manager goes on with stanzas and requests; what
it comes to is announced to the mailboxes that listen.

* `Desk` : such a program;
* `Gets` : a mailbox that is open and listens has got some results;
* `Becomes`, `Takes` : the manager has come to an attempt and has announced some results; it has gone on with an
  operation;
* `World.operation?` : what a turn asks of the manager;
* `takes_command`, `takes_runTask` : the manager goes on with what a command or a task asks of it, if that is none
  of a call that waits for its result.
-/

namespace XmppBosh.Client

open Sasl (Attempt Operation Result)
open Sasl.Negotiation (operate begins)

def Command.isDesk : Command → Bool
  | .receive _ | .handle _ | .setNonce _ | .authorize _ _ | .authenticate _ _ => true
  | _ => false

def Event.jid? : Event → Option Jid
  | .authenticated (.ok jid) => some jid
  | _ => none

namespace World

variable {act : Act} {w w' w'' : World} {box : Nat} {a : Option Attempt} {o : Operation}

/-! ## The manager -/

/-- A program with a manager on a bare link, and nothing else to do. -/
structure Desk (w : World) : Prop where
  link : w.link = some 0
  manager : w.manager = some 0
  managed : ∃ m, w.managers = [m] ∧ m.link = 0
  idle : ∀ link, w.session? link = none
  received : (w.registry (.link 0 .received)).toList = [.manager 0]
  sent : (w.registry (.link 0 .sent)).toList = [.recorder]
  scripts : w.scripts = []
  exchanges : w.exchanges = []
  logins : w.logins = []
  /-- A new mailbox listens to nothing. -/
  fresh : ∀ box, .mailbox box ∈ (w.registry (.results 0)).toList → box < w.mailboxes.length

def attempt (w : World) : Option Attempt := (w.managers[0]?).bind Manager.attempt

def listens (box : Nat) (w : World) : Nat := (w.registry (.results 0)).toList.count (.mailbox box)

/-- A mailbox that is open and listens has got some results, and goes on listening. -/
structure Gets (box : Nat) (announced : List Result) (w w' : World) : Prop where
  present : w.present (.mailbox box) → w'.present (.mailbox box)
  listens : w.present (.mailbox box) → w'.listens box = w.listens box
  content : w.present (.mailbox box) → w.listens box = 1 →
    w'.content box = w.content box ++ announced.map .result

theorem Gets.refl (box : Nat) (w : World) : Gets box [] w w :=
  ⟨id, fun _ => rfl, fun _ _ => (List.append_nil _).symm⟩

theorem Gets.trans {rs rs' : List Result} (h : Gets box rs w w') (h' : Gets box rs' w' w'') :
    Gets box (rs ++ rs') w w'' := by
  refine ⟨fun hp => h'.present (h.present hp), fun hp => ?_, fun hp hl => ?_⟩
  · rw [h'.listens (h.present hp), h.listens hp]
  · rw [h'.content (h.present hp) (by rw [h.listens hp, hl]), h.content hp hl, List.map_append, List.append_assoc]

/-- The manager has come to an attempt, and has announced some results. -/
structure Becomes (a : Option Attempt) (announced : List Result) (w w' : World) : Prop where
  desk : w'.Desk
  attempt : w'.attempt = a
  authentications : w'.authentications = w.authentications
  gets : ∀ box, Gets box announced w w'
  log : w'.log.filterMap Event.jid? = w.log.filterMap Event.jid?

theorem Becomes.refl (hd : w.Desk) : Becomes w.attempt [] w w :=
  ⟨hd, rfl, rfl, fun box => .refl box w, rfl⟩

theorem Becomes.trans {a a' : Option Attempt} {rs rs' : List Result} (h : Becomes a rs w w')
    (h' : Becomes a' rs' w' w'') : Becomes a' (rs ++ rs') w w'' :=
  ⟨h'.desk, h'.attempt, h'.authentications.trans h.authentications, fun box => (h.gets box).trans (h'.gets box),
    h'.log.trans h.log⟩

theorem Desk.tell (hd : w.Desk) (act : Act) (hub : Hub) (mail : Mail) : (w.tell act hub mail).Desk := by
  have hsame := (heard_tell act hd.scripts hub mail).same
  have hkept : ∀ {other : Hub} {ls : List Listener}, (w.registry other).toList = ls → (∀ l ∈ ls, w.present l) →
      ((w.tell act hub mail).registry other).toList = ls := by
    intro other ls hls hpresent
    rw [registry_tell act hd.scripts]
    split
    · next heq => rw [← heq, Registry.toList_prune, hls, List.filter_eq_self.2 hpresent]
    · exact hls
  obtain ⟨m, hm, hlink⟩ := hd.managed
  refine ⟨?_, ?_, ?_, ?_, hkept hd.received ?_, hkept hd.sent ?_, ?_, ?_, ?_, ?_⟩
  · rw [hsame]
    cases hub <;> exact hd.link
  · rw [hsame]
    cases hub <;> exact hd.manager
  · rw [hsame]
    cases hub with
    | link => exact ⟨m, hm, hlink⟩
    | results id => cases id <;> simp [updateRegistry, modifyManager, hm, hlink]
  · intro link
    have hsession := session?_updateRegistry hub (Registry.prune w.present) w link
    rw [hd.idle] at hsession
    rw [hsame]
    exact hsession
  · simp [World.present]
  · simp [World.present]
  · rw [hsame]
    cases hub <;> exact hd.scripts
  · rw [hsame]
    cases hub <;> exact hd.exchanges
  · rw [hsame]
    cases hub <;> exact hd.logins
  · intro box hbox
    rw [length_tell act hd.scripts]
    rw [registry_tell act hd.scripts] at hbox
    split at hbox
    · next heq => exact hd.fresh box (heq ▸ Registry.toList_prune_subset _ _ hbox)
    · exact hd.fresh box hbox

theorem attempt_tell (hd : w.Desk) (act : Act) (hub : Hub) (mail : Mail) :
    (w.tell act hub mail).attempt = w.attempt := by
  rw [attempt, (heard_tell act hd.scripts hub mail).same]
  cases hub with
  | link => rfl
  | results id =>
    obtain ⟨m, hm, -⟩ := hd.managed
    cases id <;> simp [updateRegistry, modifyManager, attempt, hm]

theorem becomes_tell (hd : w.Desk) (ha : w.attempt = a) (act : Act) (hub : Hub) (mail : Mail) {rs : List Result}
    (hcontent : ∀ box, w.present (.mailbox box) → w.listens box = 1 →
      List.replicate ((w.registry hub).toList.count (.mailbox box)) mail = rs.map .result) :
    Becomes a rs w (w.tell act hub mail) := by
  refine ⟨hd.tell .., (attempt_tell hd ..).trans ha, ?_,
    fun box => ⟨fun hp => ?_, fun hp => ?_, fun hp hl => ?_⟩, ?_⟩
  · rw [(heard_tell act hd.scripts hub mail).same]
    cases hub <;> rfl
  · rwa [present_tell act hd.scripts]
  · rw [listens, registry_tell act hd.scripts]
    split
    · next heq => rw [← heq, Registry.toList_prune, List.count_filter hp, listens]
    · rfl
  · rw [content_tell act hd.scripts, if_pos hp, hcontent box hp hl]
  · obtain ⟨n, hlog⟩ := log_tell act hd.scripts hub mail
    rw [hlog, List.filterMap_append, List.filterMap_replicate_of_none rfl, List.append_nil]

theorem becomes_sendOn (hd : w.Desk) (ha : w.attempt = a) (act : Act) (stanza : Xml.Element) :
    Becomes a [] w (w.sendOn act 0 stanza) := by
  have hstep : w.stepSession act 0 (.send stanza) = w := by rw [stepSession, hd.idle]
  rw [sendOn, hstep]
  refine becomes_tell hd ha act _ _ fun box _ _ => ?_
  simp [hd.sent]

theorem becomes_announce (hd : w.Desk) (ha : w.attempt = a) (act : Act) (result : Result) :
    Becomes a [result] w (w.tell act (.results 0) (.result result)) := by
  refine becomes_tell hd ha act _ _ fun box _ hl => ?_
  rw [← listens, hl]
  rfl

def setAttempt (a : Option Attempt) (w : World) : World := w.modifyManager 0 fun m => { m with attempt := a }

theorem becomes_setAttempt (hd : w.Desk) (a : Option Attempt) : Becomes a [] w (w.setAttempt a) := by
  obtain ⟨m, hm, hlink⟩ := hd.managed
  have hmanagers : (w.setAttempt a).managers = [{ m with attempt := a }] := by
    simp [setAttempt, modifyManager, hm]
  have hregistry : (w.setAttempt a).registry (.results 0) = w.registry (.results 0) := by
    simp [registry, hmanagers, hm]
  refine ⟨⟨hd.link, hd.manager, ⟨_, hmanagers, hlink⟩, hd.idle, hd.received, hd.sent, hd.scripts, hd.exchanges,
    hd.logins, hregistry ▸ hd.fresh⟩, ?_, rfl,
    fun box => ⟨id, fun _ => ?_, fun _ _ => (List.append_nil _).symm⟩, rfl⟩
  · simp [attempt, hmanagers]
  · rw [listens, hregistry, listens]

/-- Nothing changes that the manager has a part in. -/
theorem Desk.of_same (hd : w.Desk) (hlink : w'.link = w.link) (hmanager : w'.manager = w.manager)
    (hlinks : w'.links = w.links) (hmanagers : w'.managers = w.managers) (hscripts : w'.scripts = w.scripts)
    (hexchanges : w'.exchanges = w.exchanges) (hlogins : w'.logins = w.logins)
    (hlength : w'.mailboxes.length = w.mailboxes.length) : w'.Desk := by
  have hregistry : ∀ hub, w'.registry hub = w.registry hub := by
    intro hub
    cases hub <;> simp only [registry, hlinks, hmanagers]
  refine ⟨?_, ?_, ?_, ?_, ?_, ?_, ?_, ?_, ?_, ?_⟩
  · rw [hlink, hd.link]
  · rw [hmanager, hd.manager]
  · rw [hmanagers]
    exact hd.managed
  · intro link
    rw [session?, hlinks]
    exact hd.idle link
  · rw [hregistry, hd.received]
  · rw [hregistry, hd.sent]
  · rw [hscripts, hd.scripts]
  · rw [hexchanges, hd.exchanges]
  · rw [hlogins, hd.logins]
  · rw [hregistry, hlength]
    exact hd.fresh

theorem Gets.of_same (hmanagers : w'.managers = w.managers) (hmailboxes : w'.mailboxes = w.mailboxes) :
    Gets box [] w w' := by
  refine ⟨fun hp => ?_, fun _ => ?_, fun _ _ => ?_⟩
  · rwa [World.present, hmailboxes]
  · rw [World.listens, registry, hmanagers]
    rfl
  · rw [World.content, hmailboxes]
    exact (List.append_nil _).symm

/-! ## Operations -/

def Takes (o : Option Operation) (w w' : World) : Prop :=
  Becomes (o.elim w.attempt fun o => (operate o w.attempt).attempt)
    (o.bind fun o => (operate o w.attempt).result).toList w w'

theorem Takes.trans_none {o : Option Operation} (h : Takes o w w') (h' : Takes none w' w'') : Takes o w w'' := by
  have hattempt : w''.attempt = w'.attempt := h'.attempt
  refine ⟨h'.desk, hattempt.trans h.attempt, h'.authentications.trans h.authentications, fun box => ?_,
    h'.log.trans h.log⟩
  simpa using (h.gets box).trans (h'.gets box)

theorem takes_of_same (hd : w.Desk) (hlink : w'.link = w.link) (hmanager : w'.manager = w.manager)
    (hlinks : w'.links = w.links) (hmanagers : w'.managers = w.managers) (hscripts : w'.scripts = w.scripts)
    (hexchanges : w'.exchanges = w.exchanges) (hlogins : w'.logins = w.logins)
    (hauthentications : w'.authentications = w.authentications) (hmailboxes : w'.mailboxes = w.mailboxes)
    (hlog : w'.log = w.log) : Takes none w w' := by
  refine ⟨hd.of_same hlink hmanager hlinks hmanagers hscripts hexchanges hlogins (by rw [hmailboxes]), ?_,
    hauthentications, fun box => .of_same hmanagers hmailboxes, by rw [hlog]⟩
  rw [attempt, hmanagers]
  rfl

theorem Becomes.reply {rs : List Result} (h : Becomes a rs w w') (act : Act) (reply : Option Xml.Element) :
    Becomes a rs w (match reply with
      | some reply => w'.sendOn act 0 reply
      | none => w') := by
  cases reply with
  | none => exact h
  | some reply => simpa using h.trans (becomes_sendOn h.desk h.attempt act reply)

theorem takes_handle (hd : w.Desk) (act : Act) (stanza : Xml.Element) :
    Takes (some (.receive stanza)) w (w.handle act 0 stanza).1 := by
  obtain ⟨m, hm, hlink⟩ := hd.managed
  have hget : w.managers[0]? = some m := by rw [hm]; rfl
  have hattempt : w.attempt = m.attempt := by rw [attempt, hget, Option.bind_some]
  simp only [Takes, Option.elim_some, Option.bind_some, operate, hattempt, handle, hget, hlink]
  generalize Sasl.Negotiation.receive m.attempt stanza = r
  have hset := becomes_setAttempt hd r.attempt
  have hsent := hset.reply act r.reply
  cases hresult : r.result with
  | none => exact hsent
  | some result => exact hsent.trans (becomes_announce hsent.desk hsent.attempt act result)

theorem takes_authorize (hd : w.Desk) (act : Act) (account : Account) (mechanisms : Xml.Element) {m : Manager}
    (hm : w.managers[0]? = some m) :
    Takes (some (.request account mechanisms m.nonce)) w (w.authorize act 0 account mechanisms).1 ∧
      ((w.authorize act 0 account mechanisms).2 = .ok () ↔ begins (.request account mechanisms m.nonce)) := by
  have hlink : m.link = 0 := by
    obtain ⟨m', hm', hlink⟩ := hd.managed
    rw [hm'] at hm
    cases hm
    exact hlink
  unfold Takes authorize
  simp only [hm, hlink, Option.elim_some, Option.bind_some]
  cases hrequest : Sasl.Negotiation.request account mechanisms m.nonce with
  | error e =>
    simp only [operate, begins, hrequest]
    exact ⟨.refl hd, by simp [Except.toBool]⟩
  | ok started =>
    obtain ⟨a, stanza⟩ := started
    simp only [operate, begins, hrequest]
    have hset := becomes_setAttempt hd (some a)
    refine ⟨?_, by simp [Except.toBool]⟩
    exact hset.trans (becomes_sendOn hset.desk hset.attempt act stanza)

/-! ## Turns -/

/-- The call that is going to enter, if it is its turn. -/
def entering? (w : World) : Option (Nat × Authentication) :=
  match w.queue.head? with
  | some (.authentication id) =>
    (w.authentications[id]?).bind fun a =>
      match a.phase with
      | .entering => some (id, a)
      | .waiting _ | .finished => none
  | _ => none

def asking? (account : Account) (mechanisms : Xml.Element) (w : World) : Option Operation :=
  (w.managers[0]?).map fun m => .request account mechanisms m.nonce

def operation? (t : Turn) (w : World) : Option Operation :=
  match t with
  | .command (.receive xml) | .command (.handle xml) => (Xml.Element.parse? xml).map .receive
  | .command (.authorize text offer) =>
    match text.account, offer.element? with
    | .ok account, some mechanisms => w.asking? account mechanisms
    | _, _ => none
  | .task => w.entering?.bind fun call => w.asking? call.2.account call.2.mechanisms
  | _ => none

theorem takes_deliverStanza (hd : w.Desk) (act : Act) (stanza : Xml.Element) :
    Takes (some (.receive stanza)) w (w.deliverStanza act 0 stanza).1 := by
  have halive : w.managerAlive 0 := by simp [managerAlive, hd.manager]
  have hprune : (w.registry (.link 0 .received)).prune w.present = w.registry (.link 0 .received) := by
    refine Registry.prune_eq_self ?_
    rw [hd.received]
    simp [World.present]
  obtain ⟨n, hentries⟩ : ∃ n, (w.registry (.link 0 .received)).entries = [(n, .manager 0)] := by
    obtain ⟨e, he, hmanager⟩ := List.map_eq_singleton_iff.1 hd.received
    exact ⟨e.1, by rw [he, ← hmanager]⟩
  have hheard : (w.hearStanza act 0 stanza (.manager 0)).1 = (w.handle act 0 stanza).1 := by
    simp only [hearStanza, halive, if_true]
  have hclosed : closedIds [(n, (w.hearStanza act 0 stanza (.manager 0)).2)] = [] := by
    simp [closedIds, hearStanza_ne_closed halive]
  have hdelivered : (w.deliverStanza act 0 stanza).1 = (w.handle act 0 stanza).1 := by
    unfold deliverStanza emit
    simp only [updateRegistry_eq_self hprune, hentries, deliver, hclosed, hheard,
      updateRegistry_eq_self (Registry.retire_nil _)]
  rw [hdelivered]
  exact takes_handle hd act stanza

theorem takes_setNonce (hd : w.Desk) (nonce : Except Sasl.MechanismError String) :
    Takes none w (w.modifyManager 0 fun m => { m with nonce }) := by
  obtain ⟨m, hm, hlink⟩ := hd.managed
  generalize hw' : (w.modifyManager 0 fun m => { m with nonce }) = w'
  have hmanagers : w'.managers = [{ m with nonce }] := by
    simp [← hw', modifyManager, hm]
  have hregistry : w'.registry (.results 0) = w.registry (.results 0) := by
    simp [registry, hmanagers, hm]
  have hattempt : w'.attempt = w.attempt := by
    simp [attempt, hmanagers, hm]
  have hlistens : ∀ box, w'.listens box = w.listens box := by
    intro box
    rw [listens, hregistry, listens]
  subst hw'
  exact ⟨⟨hd.link, hd.manager, ⟨_, hmanagers, hlink⟩, hd.idle, hd.received, hd.sent, hd.scripts, hd.exchanges,
    hd.logins, hregistry ▸ hd.fresh⟩, hattempt, rfl,
    fun box => ⟨id, fun _ => hlistens box, fun _ _ => (List.append_nil _).symm⟩, rfl⟩

theorem takes_command (hd : w.Desk) {c : Command} (hc : c.isDesk)
    (hcall : ∀ text offer, c ≠ .authenticate text offer) :
    Takes (w.operation? (.command c)) w (w.turn (.command c)) := by
  obtain ⟨m, hm, hlink⟩ := hd.managed
  have hget : w.managers[0]? = some m := by rw [hm]; rfl
  have hask : w.turn (.command c) = (w.perform (performWithin (w.reach + c.weight)) c).1 := rfl
  rw [hask]
  generalize performWithin (w.reach + c.weight) = act
  cases c with
  | receive xml =>
    simp only [perform, performOnLink, withLink, hd.link, operation?]
    cases Xml.Element.parse? xml with
    | none => exact .refl hd
    | some stanza => exact takes_deliverStanza hd act stanza
  | handle xml =>
    simp only [perform, performOnManager, withManager, withLink, hd.link, hd.manager, operation?]
    cases Xml.Element.parse? xml with
    | none => exact .refl hd
    | some stanza =>
      have htakes := takes_handle hd act stanza
      cases hhandle : w.handle act 0 stanza with
      | mk w' error =>
        rw [hhandle] at htakes
        cases error <;> simp only [hhandle] <;> exact htakes
  | setNonce nonce =>
    simp only [perform, performOnManager, withManager, withLink, hd.link, hd.manager, operation?]
    exact takes_setNonce hd _
  | authorize text offer =>
    simp only [perform, performOnManager, withManager, withLink, withOffer, hd.link, hd.manager, operation?]
    cases text.account with
    | error e => exact .refl hd
    | ok account =>
      cases offer.element? with
      | none => exact .refl hd
      | some mechanisms =>
        have htakes := (takes_authorize hd act account mechanisms hget).1
        simp only [asking?, hget, Option.map_some]
        cases hauthorize : w.authorize act 0 account mechanisms with
        | mk w' out =>
          rw [hauthorize] at htakes
          cases out <;> exact htakes
  | authenticate text offer => exact absurd rfl (hcall text offer)
  | _ => cases hc

theorem takes_runTask (hd : w.Desk) {t : Task}
    (ht : ∀ id a, t = .authentication id → w.authentications[id]? = some a → a.phase = .finished) :
    Takes none w (w.runTask t) := by
  cases t with
  | exchange id =>
    simp only [runTask, hd.exchanges, List.getElem?_nil]
    exact .refl hd
  | alarm due link alarm =>
    have hfired : w.stepSession w.act link (.fire alarm) = w := by rw [stepSession, hd.idle]
    simp only [runTask, goOff, hfired]
    split
    · split
      · cases alarm with
        | heartbeat => exact takes_of_same hd rfl rfl rfl rfl rfl rfl rfl rfl rfl rfl
        | _ => exact .refl hd
      · exact .refl hd
    · exact takes_of_same hd rfl rfl rfl rfl rfl rfl rfl rfl rfl rfl
  | login id =>
    simp only [runTask, resumeLogin, hd.logins, List.getElem?_nil]
    exact .refl hd
  | authentication id =>
    cases ha : w.authentications[id]? with
    | none =>
      simp only [runTask, resumeAuthentication, ha]
      exact .refl hd
    | some a =>
      simp only [runTask, resumeAuthentication, ha, ht id a rfl ha]
      exact .refl hd

end World

end XmppBosh.Client
