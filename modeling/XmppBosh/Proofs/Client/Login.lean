import XmppBosh.Proofs.Client.Phases

/-!
# A login is all or nothing

* `heard` : the stanzas that some turns hand out;
* `Asks`, `Requested` : a login has asked for an attempt with one of the turns, and the stanzas since;
* `Stands.turn`, `Stands.run` : a login after one turn of the server, and after any number of them;
* `login_settles` : what a login leaves behind.
-/

namespace XmppBosh.Client

open Sasl (Attempt Operation)
open Sasl.Negotiation (attemptAfter begins Succeeds)

namespace World

variable {w w' : World} {seat : Seat} {asked : Option (List Operation)} {k : Nat} {account : Account}
  {phase : LoginPhase}

/-! ## Turns -/

def heard : List Turn → World → List Xml.Element
  | [], _ => []
  | t :: ts, w => w.handedOut t ++ heard ts (w.turn t)

theorem heard_concat (ts : List Turn) (t : Turn) (w : World) :
    heard (ts ++ [t]) w = heard ts w ++ (w.after ts).handedOut t := by
  induction ts generalizing w with
  | nil => simp [heard]
  | cons t' ts ih => simp [heard, ih]

def awaited? (k : Nat) (w : World) : Option Nat :=
  match (w.logins[k]?).map Login.phase with
  | some (.authenticating _ _ manager _) => some manager
  | _ => none

structure Asks (k : Nat) (request : Operation) (w w' : World) : Prop where
  begins : begins request
  before : w.awaited? k = none
  after : ∃ manager, w'.awaited? k = some manager ∧ w'.attemptOf manager = attemptAfter [request]

def Requested (k : Nat) (account : Account) (w : World) (ts : List Turn) (ops : List Operation) : Prop :=
  ∃ before after mechanisms nonce, ts = before ++ .task :: after ∧
    Asks k (.request account mechanisms nonce) (w.after before) (w.after (before ++ [.task])) ∧
    ops = .request account mechanisms nonce :: (heard after (w.after (before ++ [.task]))).map .receive

variable {ts : List Turn} {t : Turn} {ops : List Operation}

theorem Requested.concat (h : Requested k account w ts ops) (t : Turn) :
    Requested k account w (ts ++ [t]) (ops ++ ((w.after ts).handedOut t).map .receive) := by
  obtain ⟨before, after, mechanisms, nonce, rfl, hasks, rfl⟩ := h
  refine ⟨before, after ++ [t], mechanisms, nonce, by simp, hasks, ?_⟩
  rw [heard_concat, ← after_append, List.append_assoc, List.singleton_append, List.map_append, List.cons_append]

def Stands (k : Nat) (account : Account) (w : World) (ts : List Turn) : Prop :=
  ∃ phase seat asked, Going k account phase seat asked (w.after ts) ∧
    ∀ ops, asked = some ops → Requested k account w ts ops

theorem Going.awaited? (h : Going k account phase seat asked w) :
    w.awaited? k = if asked.isSome then some seat.manager else none := by
  have hfits := h.fits
  rw [World.awaited?, h.alone.own, Option.map_some]
  cases phase with
  | entering | waiting | offered =>
    obtain ⟨rfl, -⟩ := hfits
    rfl
  | authenticating =>
    obtain ⟨hasked, rfl, -⟩ := hfits
    rw [if_pos hasked]
  | finished =>
    obtain rfl := hfits
    rfl

theorem Going.not_pending (h : Going k account phase seat (some ops) w) : ¬ Pending "xmpp:restart" "true" w := by
  rintro ⟨s, body, hs, hbody, hattr⟩
  have hfits := h.fits
  cases phase with
  | authenticating =>
    obtain ⟨-, -, -, -, s', hs', -, -, hnone⟩ := hfits
    obtain rfl : s = s' := Option.some.inj (hs.symm.trans hs')
    simp [hnone body hbody] at hattr
  | finished => cases hfits
  | _ => cases hfits.1

/-- **One turn.** -/
theorem Stands.turn (h : Stands k account w ts) (ht : t.isServer) : Stands k account w (ts ++ [t]) ∧
    (Silent (w.after ts) ((w.after ts).turn t) ∨ ∃ out between asked, Silent (w.after ts) between ∧
      ((w.after ts).turn t).log = between.log ++ [.login out] ∧
      (∀ ops, asked = some ops → Requested k account w ts ops ∧ ¬ Pending "xmpp:restart" "true" (w.after ts)) ∧
      Settled asked (w.after ts) ((w.after ts).turn t) out) := by
  obtain ⟨phase, seat, asked, hgoing, hasked⟩ := h
  have hstands : ∀ {w'} {phase seat asked'}, Going k account phase seat asked' w' → (w.after ts).turn t = w' →
      (∀ ops, asked' = some ops → Requested k account w (ts ++ [t]) ops) → Stands k account w (ts ++ [t]) := by
    intro w' phase seat asked' hg hw' hr
    exact ⟨phase, seat, asked', by rw [after_concat, hw']; exact hg, hr⟩
  by_cases hown : t = .task ∧ (w.after ts).queue.head? = some (.login k)
  -- The login itself goes on.
  · obtain ⟨rfl, hhead⟩ := hown
    obtain ⟨rest, hqueue⟩ := List.head?_eq_some_iff.1 hhead
    have hturn : (w.after ts).turn .task = World.resumeLogin
        (World.act { w.after ts with queue := rest }) k { w.after ts with queue := rest } := by
      simp only [World.turn, hqueue]
      rfl
    have hquiet : (w.after ts).handedOut .task = [] := by
      rw [handedOut, hhead]
      rfl
    have htaken : Comes seat asked (w.after ts) { w.after ts with queue := rest } :=
      (Comes.refl hgoing.attends).wait rfl rfl rfl
    have hadvances := (hgoing.comes htaken rfl).resume htaken.serves.silent
      (World.act { w.after ts with queue := rest })
    rw [hturn]
    cases hadvances with
    | goes phase' seat' asked' going silent asking =>
      refine ⟨hstands going hturn fun ops hops => ?_, .inl silent⟩
      rcases asking ops hops with hsame | ⟨rfl, mechanisms, nonce, hbegins, rfl⟩
      · have := (hasked ops hsame).concat .task
        rwa [hquiet, List.map_nil, List.append_nil] at this
      · subst hops
        refine ⟨ts, [], mechanisms, nonce, rfl, ⟨hbegins, ?_, seat'.manager, ?_, ?_⟩, rfl⟩
        · rw [hgoing.awaited?]
          rfl
        · rw [after_concat, hturn, going.awaited?]
          rfl
        · rw [after_concat, hturn]
          exact (going.attends.attempt _ rfl).2
    | ends out seat' going log settled =>
      obtain ⟨between, hsilent, hlog⟩ := log
      refine ⟨hstands going hturn fun ops hops => ?_, .inr ⟨out, between, asked, hsilent, hlog, ?_, settled⟩⟩
      · cases hops
      · rintro ops rfl
        exact ⟨hasked ops rfl, hgoing.not_pending⟩
  -- The turn is none of the login's.
  · have hcomes : Comes seat (asked.map (· ++ ((w.after ts).handedOut t).map .receive)) (w.after ts)
        ((w.after ts).turn t) := by
      refine Comes.turn hgoing.attends ht fun id l htask hhead hl => hgoing.alone.others id l hl ?_
      rintro rfl
      exact hown ⟨htask, hhead⟩
    refine ⟨hstands (hgoing.comes hcomes (by simp)) rfl fun ops hops => ?_, .inl hcomes.serves.silent⟩
    obtain ⟨before, hbefore, rfl⟩ := Option.map_eq_some_iff.1 hops
    exact (hasked before hbefore).concat t

/-! ## A login -/

theorem idle_newLink (starts : Nat → Nat) (nonce : String) {s : Bosh.Session} (hs : s.Sound)
    (hinactive : s.active = false) : (({ starts, nonce } : World).newLink s).Idle where
  link := rfl
  links := rfl
  manager := rfl
  scripts := rfl
  session := ⟨s, rfl, hs⟩
  authentications := List.forall_mem_nil _
  numbered := Registry.numbered_empty.add Listener.recorder
  known := nofun
  rest := ⟨s, rfl, hinactive, hs.nameless hinactive⟩
  finished := List.forall_mem_nil _

theorem Idle.stands (h : w.Idle) {text : AccountText} (haccount : text.account = .ok account) :
    Stands w.logins.length account (w.turn (.command (.login text))) [] := by
  generalize hw' : w.turn (.command (.login text)) = w'
  obtain ⟨queue, heq⟩ : ∃ queue, w' = { w with logins := w.logins ++ [{ link := 0, account }], queue } := by
    rw [← hw']
    simp only [World.turn, ask, performWithin, perform, performOnLink, withLink, h.link, haccount]
    exact ⟨_, rfl⟩
  have hreserved : w'.Reserved := by
    rw [heq]
    exact ⟨h.link, h.links, h.manager, h.scripts, h.session, h.authentications, h.numbered, h.known⟩
  have halone : Alone w.logins.length { link := 0, account, phase := .entering } w' := by
    rw [heq]
    refine ⟨List.getElem?_concat_length, fun i l hl hi => h.finished l ?_⟩
    have hlt : i < w.logins.length := by
      have hlt := (List.getElem?_eq_some_iff.1 hl).1
      rw [List.length_append, List.length_singleton] at hlt
      omega
    rw [List.getElem?_append_left hlt] at hl
    exact List.mem_of_getElem? hl
  have hrest : w'.Rest := by
    rw [heq]
    exact h.rest
  refine ⟨.entering, _, none, ⟨hreserved.attends (halone.managerAlive hreserved), halone, rfl, hrest⟩,
    fun ops hops => ?_⟩
  cases hops

theorem Stands.run (h : Stands k account w []) (hts : ∀ t ∈ ts, t.isServer) : Stands k account w ts := by
  induction ts using List.reverseRecOn with
  | nil => exact h
  | append_singleton ts t ih =>
    rw [List.forall_mem_append, List.forall_mem_singleton] at hts
    exact ((ih hts.1).turn hts.2).1

theorem Silent.outcomes (h : Silent w w') : w'.log.filterMap Event.login? = w.log.filterMap Event.login? := by
  obtain ⟨new, hlog, hnew⟩ := h
  rw [hlog, List.filterMap_append, List.filterMap_eq_nil_iff.2 hnew, List.append_nil]

/-- **A login is all or nothing.** Whatever the server does while a login is the only user of a link that was at
rest: if it fails, the program is idle again with the link at rest, and if the server did not let it in, a last body
was handed over in the same turn. If it succeeds, it has done so for its account: the attempt that it asked for was
ended by a success, and a body that asks for a new stream is pending or was handed over in the same turn, while none
was pending before. -/
theorem login_settles (h : w.Idle) {text : AccountText} (haccount : text.account = .ok account)
    (hts : ∀ t ∈ ts, t.isServer) (ht : t.isServer) {out : Except ClientError Jid} :
    let start := w.turn (.command (.login text))
    let before := start.after ts
    let after := before.turn t
    after.log.filterMap Event.login? = before.log.filterMap Event.login? ++ [out] →
    match out with
    | .error e => after.Idle ∧ ∀ cause, e = .auth cause → Posted "type" "terminate" (since before after)
    | .ok jid => jid = account.jid ∧
      (∃ earlier later mechanisms nonce stanzas success rest, ts = earlier ++ .task :: later ∧
        Asks w.logins.length (.request account mechanisms nonce) (start.after earlier)
          (start.after (earlier ++ [.task])) ∧
        heard later (start.after (earlier ++ [.task])) = stanzas ++ success :: rest ∧
        Succeeds account mechanisms nonce stanzas success) ∧
      ¬ Pending "xmpp:restart" "true" before ∧
      (Pending "xmpp:restart" "true" after ∨ Posted "xmpp:restart" "true" (since before after)) := by
  intro start before after hout
  have hstands : Stands w.logins.length account start ts := (h.stands haccount).run hts
  rcases (hstands.turn ht).2 with hsilent | ⟨out', between, asked, hsilent, hlog, hasked, hsettled⟩
  · rw [hsilent.outcomes, List.self_eq_append_right] at hout
    cases hout
  · rw [hlog, List.filterMap_append, hsilent.outcomes] at hout
    have hsame := List.append_cancel_left hout
    obtain rfl : out' = out := by simpa [Event.login?] using hsame
    cases out' with
    | error e => exact hsettled
    | ok jid =>
      obtain ⟨⟨ops, hops, hresult⟩, hrestart⟩ := hsettled
      obtain ⟨⟨earlier, later, mechanisms, nonce, rfl, hasks, rfl⟩, hunasked⟩ := hasked ops hops
      obtain ⟨hjid, stanzas, success, rest, hheard, hsucceeds⟩ :=
        Sasl.Negotiation.succeeds_of_mem_results hasks.begins hresult
      exact ⟨hjid, ⟨earlier, later, mechanisms, nonce, stanzas, success, rest, rfl, hasks, hheard, hsucceeds⟩,
        hunasked, hrestart⟩

def lobby : World :=
  ({ starts := fun _ => 0, nonce := "n" } : World).newLink
    { settings := some { httpBase := "http://localhost/", hostName := "localhost" } }

/-- The server offers a mechanism, and it is content with what the client says. -/
def welcome : List Turn :=
  let features := "<body xmlns='http://jabber.org/protocol/httpbind' sid='s'>" ++
    "<features xmlns='http://etherx.jabber.org/streams'><mechanisms xmlns='urn:ietf:params:xml:ns:xmpp-sasl'>" ++
    "<mechanism>PLAIN</mechanism></mechanisms></features></body>"
  let success := "<body xmlns='http://jabber.org/protocol/httpbind'>" ++
    "<success xmlns='urn:ietf:params:xml:ns:xmpp-sasl'/></body>"
  [.task, .command (.reply (.at 0) (.response 200 features)), .task, .task, .task,
    .command (.reply (.at 1) (.response 200 success)), .task, .task]

theorem admits_welcome :
    let start := lobby.turn (.command (.login { jid := "u@d", password := some "p" }))
    let before := start.after welcome
    let after := before.turn .task
    let account : Account := { jid := { node := some "u", domain := "d" }, password := some "p" }
    after.log.filterMap Event.login? = before.log.filterMap Event.login? ++ [.ok account.jid] := by
  decide +kernel

/-- The login succeeds, for the account that it was asked for with. -/
theorem settles_of_welcome :
    let start := lobby.turn (.command (.login { jid := "u@d", password := some "p" }))
    let before := start.after welcome
    let after := before.turn .task
    let account : Account := { jid := { node := some "u", domain := "d" }, password := some "p" }
    after.log.filterMap Event.login? = before.log.filterMap Event.login? ++ [.ok account.jid] ∧
      (∃ earlier later mechanisms nonce stanzas success rest, welcome = earlier ++ .task :: later ∧
        Asks 0 (.request account mechanisms nonce) (start.after earlier) (start.after (earlier ++ [.task])) ∧
        heard later (start.after (earlier ++ [.task])) = stanzas ++ success :: rest ∧
        Succeeds account mechanisms nonce stanzas success) ∧
      ¬ Pending "xmpp:restart" "true" before ∧
      (Pending "xmpp:restart" "true" after ∨ Posted "xmpp:restart" "true" (since before after)) := by
  have haccount : ({ jid := "u@d", password := some "p" } : AccountText).account =
      .ok { jid := { node := some "u", domain := "d" }, password := some "p" } := by decide +kernel
  have hlobby : lobby.Idle := idle_newLink _ _ ⟨nofun, fun _ => rfl⟩ rfl
  have hwelcome : ∀ t ∈ welcome, t.isServer := by decide
  exact ⟨admits_welcome, (login_settles hlobby haccount hwelcome (t := .task) rfl admits_welcome).2⟩

end World

end XmppBosh.Client
