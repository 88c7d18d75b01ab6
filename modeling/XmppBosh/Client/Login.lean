import XmppBosh.Client.Delivery

/-!
# Procedures in the background

* `resumeLogin` : a login goes on as far as it can: it starts a session, waits for the mechanisms
  that the server offers, authenticates, and asks for a new stream; when the authentication fails it
  ends the session, and when the connection goes away it gives up;
* `resumeAuthentication` : an authentication that is waited for goes on as far as it can.

Each goes on until it has to wait for a piece of mail, and is told when it comes. A login reads at
most `mailBudget` pieces at a time; then it lets everything go first that is ready.
-/

namespace XmppBosh.Client

open Xml

namespace World

/-! ## Beginning -/

def connectOn (act : Act) (link : Nat) (w : World) : World × Except ClientError Unit :=
  match (w.session? link).bind Bosh.Session.connectError? with
  | some e => (w, .error e)
  | none =>
    let start := w.starts (w.sessions + 1)
    let w := if w.isActive link then w else { w with sessions := w.sessions + 1 }
    (w.stepSession act link (.connect start), .ok ())

def newManager (link : Nat) (w : World) : World × Nat :=
  let id := w.managers.length
  let w := { w with managers := w.managers ++ [({ link, nonce := .ok w.nonce } : Manager)] }
  (w.addListener (.link link .received) (.manager id), id)

def subscribeTo (hub : Hub) (w : World) : World × Nat :=
  let (w, id) := w.openMailbox
  (w.addListener hub (.mailbox id), id)

/-- A manager begins an authentication: a new attempt takes the place of the one under way, and the
stanza that begins it is sent. When none can be begun, nothing changes. -/
def authorize (act : Act) (id : Nat) (account : Account) (mechanisms : Element) (w : World) :
    World × Except AuthError Unit :=
  match w.managers[id]? with
  | none => (w, .ok ())
  | some m =>
    match Sasl.Negotiation.request account mechanisms m.nonce with
    | .error e => (w, .error e)
    | .ok (attempt, stanza) =>
      let w := w.modifyManager id fun m => { m with attempt := some attempt }
      (w.sendOn act m.link stanza, .ok ())

/-! ## What the mail says -/

/-- The mechanisms that a server offers among the features of its stream. -/
def mechanisms? (stanza : Element) : Option Element :=
  if stanza.is "features" Namespace.streams then
    stanza.elements.find? fun e => e.is "mechanisms" Namespace.sasl
  else none

/-- Why the connection has gone away, if a notice says so. -/
def ending? : Bosh.Notice → Option String
  | .disconnected reason | .error reason => some reason
  | .connected | .waitingForRetry _ _ => none

def outcome : Sasl.Result → Except AuthError Jid
  | .succeeded jid => .ok jid
  | .failed condition => .error (.failure condition)
  | .error cause => .error cause

def firstOutcome? (mail : List Mail) : Option (Except AuthError Jid) :=
  mail.findSome? fun
    | .result r => some (outcome r)
    | _ => none

/-- What a piece of mail means to a login. -/
inductive Sign where
  | offer (mechanisms : Element)
  | gone (reason : String)
  | concluded (outcome : Except AuthError Jid)

def sign? : Mail → Option Sign
  | .stanza e => (mechanisms? e).map .offer
  | .notice n => (ending? n).map .gone
  | .result r => some (.concluded (outcome r))

/-! ## Reading mail -/

/-- How many pieces of mail a login reads at a time. -/
def mailBudget : Nat := 128

/-- Two lists as one, taken from in turn, the first one first. -/
def inTurn {α : Type} : List α → List α → List α
  | [], bs => bs
  | as, [] => as
  | a :: as, b :: bs => a :: b :: inTurn as bs

/-- Reads mail up to the first piece that means something: that, what is left of the budget, and the
mail after it. -/
def readMail : Nat → List Mail → Option Sign × Nat × List Mail
  | 0, mail => (none, 0, mail)
  | budget, [] => (none, budget, [])
  | budget + 1, m :: mail =>
    match sign? m with
    | some sign => (some sign, budget, mail)
    | none => readMail budget mail

/-! ## Logins -/

def loginMailboxes : LoginPhase → List Nat
  | .waiting stanzas states _ | .offered stanzas states _ _ => [stanzas, states]
  | .authenticating stanzas states _ results => [stanzas, states, results]
  | .entering | .finished => []

def finishLogin (id : Nat) (outcome : Except ClientError Jid) (w : World) : World :=
  match w.logins[id]? with
  | none => w
  | some l =>
    let w := (loginMailboxes l.phase).foldl (fun w b => w.closeMailbox b) w
    (w.setLoginPhase id .finished).note (.login outcome)

/-- The authentication of a login is through. -/
def concludeLogin (act : Act) (id link : Nat) (outcome : Except AuthError Jid) (w : World) : World :=
  match outcome with
  | .ok jid =>
    ((w.stepSession act link .restart).stepSession act link .flush).finishLogin id (.ok jid)
  | .error e => (w.stepSession act link .disconnect).finishLogin id (.error (.auth e))

/-- A login reads what is in one mailbox and among its notices, in turn, as far as its budget goes.
With all of it read it waits for more; with the budget used up it lets others go first. -/
def consult (id budget box states : Nat) (w : World) : World × Option (Sign × Nat) :=
  let (sign, budget, mail) := readMail budget (inTurn (w.content box) (w.content states))
  let isNotice := fun | Mail.notice _ => true | _ => false
  let left := (w.keep box (mail.filter (!isNotice ·))).keep states (mail.filter isNotice)
  match sign with
  | some sign => (left, some (sign, budget))
  | none =>
    if budget = 0 then (left.defer (.login id), none)
    else ((w.await box (.login id)).await states (.login id), none)

def awaitResult (act : Act) (id budget link states results : Nat) (w : World) : World :=
  match w.consult id budget results states with
  | (w, some (.concluded outcome, _)) => w.concludeLogin act id link outcome
  | (w, some (.gone reason, _)) => w.finishLogin id (.error (.disconnected reason))
  | (w, _) => w

def beginLogin (act : Act) (id budget : Nat) (l : Login) (stanzas states manager : Nat)
    (mechanisms : Element) (w : World) : World :=
  if budget = 0 then w.defer (.login id)
  else
    let (w, results) := w.subscribeTo (.results manager)
    let w := w.setLoginPhase id (.authenticating stanzas states manager results)
    match w.authorize act manager l.account mechanisms with
    | (w, .error e) => w.concludeLogin act id l.link (.error e)
    | (w, .ok ()) => w.awaitResult act id budget l.link states results

def awaitOffer (act : Act) (id budget : Nat) (l : Login) (stanzas states manager : Nat) (w : World) :
    World :=
  match w.consult id budget stanzas states with
  | (w, some (.offer mechanisms, budget)) =>
    let w := w.setLoginPhase id (.offered stanzas states manager mechanisms)
    w.beginLogin act id budget l stanzas states manager mechanisms
  | (w, some (.gone reason, _)) => w.finishLogin id (.error (.disconnected reason))
  | (w, _) => w

/-- A login sets up its mailboxes and its manager, and starts a session. -/
def enterLogin (act : Act) (id : Nat) (l : Login) (w : World) : World :=
  let (w, stanzas) := w.subscribeTo (.link l.link .received)
  let (w, states) := w.subscribeTo (.link l.link .state)
  let (w, manager) := w.newManager l.link
  let w := w.setLoginPhase id (.waiting stanzas states manager)
  match w.connectOn act l.link with
  | (w, .error e) => w.finishLogin id (.error e)
  | (w, .ok ()) => w.awaitOffer act id mailBudget l stanzas states manager

def resumeLogin (act : Act) (id : Nat) (w : World) : World :=
  match w.logins[id]? with
  | none => w
  | some l =>
    match l.phase with
    | .entering => w.enterLogin act id l
    | .waiting stanzas states manager => w.awaitOffer act id mailBudget l stanzas states manager
    | .offered stanzas states manager mechanisms =>
      w.beginLogin act id mailBudget l stanzas states manager mechanisms
    | .authenticating _ states _ results =>
      w.awaitResult act id mailBudget l.link states results
    | .finished => w

/-! ## Authentications -/

def finishAuthentication (id : Nat) (outcome : Except AuthError Jid) (w : World) : World :=
  match w.authentications[id]? with
  | none => w
  | some a =>
    let w := match a.phase with
      | .waiting results => w.closeMailbox results
      | .entering | .finished => w
    (w.setAuthenticationPhase id .finished).note (.authenticated outcome)

def awaitOutcome (id results : Nat) (w : World) : World :=
  match firstOutcome? (w.content results) with
  | some outcome => w.finishAuthentication id outcome
  | none => w.await results (.authentication id)

/-- An authentication listens for results and sends its request. -/
def enterAuthentication (act : Act) (id : Nat) (a : Authentication) (w : World) : World :=
  let (w, results) := w.subscribeTo (.results a.manager)
  let w := w.setAuthenticationPhase id (.waiting results)
  match w.authorize act a.manager a.account a.mechanisms with
  | (w, .error e) => w.finishAuthentication id (.error e)
  | (w, .ok ()) => w.awaitOutcome id results

def resumeAuthentication (act : Act) (id : Nat) (w : World) : World :=
  match w.authentications[id]? with
  | none => w
  | some a =>
    match a.phase with
    | .entering => w.enterAuthentication act id a
    | .waiting results => w.awaitOutcome id results
    | .finished => w

end World

end XmppBosh.Client
