import XmppBosh.Client.Login

/-!
# Carrying out commands

* `perform act c` : what a command does, where `act` is what the commands of its listeners do;
* `performWithin n` : the same with listeners inside listeners, at most `n` deep;
* `reach` : how deep they can get. A listener runs its commands on a bounded number of calls, and
  listeners that it adds bring calls of their own, all of which `Command.weight` counts;
* `run` : a command in the open, `World.act` : what commands do within a task.
-/

namespace XmppBosh.Client

open Xml

/-! ## How deep listeners nest -/

mutual

def Command.weight : Command → Nat
  | .listen _ _ actions times _ => times * (Command.weights actions + 1)
  | .onResult _ actions times _ => times * (Command.weights actions + 1)
  | _ => 0

def Command.weights : List Command → Nat
  | [] => 0
  | c :: cs => c.weight + Command.weights cs

end

def Script.weight (s : Script) : Nat := s.left * (Command.weights s.actions + 1)

namespace World

/-- How deep listeners can nest. -/
def reach (w : World) : Nat := w.scripts.foldl (fun n s => n + s.weight) 0

/-! ## Parts of a command -/

def addScript (hub : Hub) (s : Script) (w : World) : World :=
  ({ w with scripts := w.scripts ++ [s] }).addListener hub (.script w.scripts.length)

/-- A registry with a recorder in it. -/
def recorded : Registry Listener := ({} : Registry Listener).add .recorder

def adoptLink (l : Link) (w : World) : World :=
  { w with links := w.links ++ [l], link := some w.links.length }

/-- A new link with a session, and with a recorder on every kind of event. -/
def newLink (s : Bosh.Session) (w : World) : World :=
  w.adoptLink
    { session := some s, received := recorded, sent := recorded, responses := recorded
      states := recorded }

def newBareLink (w : World) : World := w.adoptLink { sent := recorded }

def adoptManager (link : Nat) (w : World) : World :=
  let (w, id) := w.newManager link
  ({ w with manager := some id }).addListener (.results id) .recorder

/-- The request that a target means, if it has no reply yet. -/
def target? (w : World) : Target → Option Nat
  | .at i =>
    let n := w.exchanges.length
    let index := if i < 0 then (i + n) else i
    if 0 ≤ index ∧ (w.exchanges[index.toNat]?).any (·.reply.isNone) then some index.toNat else none
  | .oldest => w.exchanges.findIdx? fun x => x.reply.isNone
  | .newest =>
    (w.exchanges.reverse.findIdx? fun x => x.reply.isNone).map fun i => w.exchanges.length - 1 - i

def drain (id : Nat) (w : World) : World × Answer :=
  (w.emptyMailbox id, .mail (w.content id))

def withSession (w : World) (go : Nat → Bosh.Session → World × Answer) : World × Answer :=
  match w.link with
  | none => (w, .refused .dropped)
  | some link =>
    match w.session? link with
    | none => (w, .refused .dropped)
    | some s => go link s

def withLink (w : World) (go : Nat → World × Answer) : World × Answer :=
  match w.link with
  | none => (w, .refused .dropped)
  | some link => go link

/-- Does something with the program's manager, which needs the link. -/
def withManager (w : World) (go : Nat → World × Answer) : World × Answer :=
  w.withLink fun _ =>
    match w.manager with
    | none => (w, .refused .noManager)
    | some id => go id

def withOffer (w : World) (account : AccountText) (offer : Offer)
    (go : Account → Element → World × Answer) : World × Answer :=
  match account.account with
  | .error e => (w, .refused (.client (.jidParse e)))
  | .ok account =>
    match offer.element? with
    | none => (w, .refused .badXml)
    | some mechanisms => go account mechanisms

/-! ## Commands -/

def performOnLink (act : Act) (c : Command) (w : World) : World × Answer :=
  let step := fun (i : Bosh.Input) =>
    w.withSession fun link _ => (w.stepSession act link i, Answer.done)
  match c with
  | .connect => w.withLink fun link =>
    match w.connectOn act link with
    | (w, .ok ()) => (w, .done)
    | (w, .error e) => (w, .refused (.client e))
  | .disconnect => step .disconnect
  | .flush => step .flush
  | .restartStream => step .restart
  | .setSettings settings => step (.setSettings settings)
  | .setTimings timings => step (.setTimings timings)
  | .send xml => w.withLink fun link =>
    match Element.parse? xml with
    | none => (w, .refused .badXml)
    | some stanza => (w.sendOn act link stanza, .done)
  | .pause => w.withSession fun link s =>
    if s.maxPause?.isNone then (w, .stream none)
    else
      let w := w.stepSession act link .pause
      let stream := (w.session? link).bind Bosh.Session.stream
      ({ w with saved := stream }, .stream stream)
  | .resume stream => w.withSession fun link _ =>
    match stream.orElse fun _ => w.saved with
    | none => (w, .refused .nothingSaved)
    | some stream => (w.stepSession act link (.resume stream), .flag true)
  | .settings => w.withSession fun _ s => (w, .settings s.settings)
  | .listen topic tag actions times verdict => w.withLink fun link =>
    (w.addScript (.link link topic) { tag, actions, left := times, verdict }, .done)
  | .subscribe name stanzas => w.withLink fun link =>
    let (w, id) := w.subscribeTo (.link link (if stanzas then .received else .state))
    ({ w with subscriptions := (name, id) :: w.subscriptions }, .done)
  | .newManager => w.withLink fun link => (w.adoptManager link, .done)
  | .login account => w.withLink fun link =>
    match account.account with
    | .error e => (w, .refused (.client (.jidParse e)))
    | .ok account =>
      let w := { w with logins := w.logins ++ [({ link, account } : Login)] }
      (w.spawn (.login (w.logins.length - 1)), .done)
  | .newLink => w.withSession fun _ s =>
    (w.newLink { settings := s.settings }, .done)
  | .receive xml => w.withLink fun link =>
    match Element.parse? xml with
    | none => (w, .refused .badXml)
    | some stanza =>
      let (w, verdicts) := w.deliverStanza act link stanza
      (w, .verdicts verdicts)
  | .advance _ => w.withLink fun _ => (w, .done)
  | _ => (w, .done)

def performOnManager (act : Act) (c : Command) (w : World) : World × Answer :=
  w.withManager fun id =>
    match c with
    | .handle xml =>
      match Element.parse? xml with
      | none => (w, .refused .badXml)
      | some stanza =>
        match w.handle act id stanza with
        | (w, none) => (w, .done)
        | (w, some e) => (w, .refused (.auth e))
    | .setNonce nonce =>
      let nonce := match nonce with
        | some text => .ok text
        | none => .error .cannotGenerateNonce
      (w.modifyManager id fun m => { m with nonce }, .done)
    | .authorize account offer => w.withOffer account offer fun account mechanisms =>
      match w.authorize act id account mechanisms with
      | (w, .ok ()) => (w, .done)
      | (w, .error e) => (w, .refused (.auth e))
    | .authenticate account offer => w.withOffer account offer fun account mechanisms =>
      let a : Authentication := { manager := id, account, mechanisms }
      let w := { w with authentications := w.authentications ++ [a] }
      (w.spawn (.authentication (w.authentications.length - 1)), .done)
    | .onResult tag actions times verdict =>
      (w.addScript (.results id) { tag, actions, left := times, verdict }, .done)
    | .subscribeResults name =>
      let (w, box) := w.subscribeTo (.results id)
      ({ w with resultSubscriptions := (name, box) :: w.resultSubscriptions }, .done)
    | .drainResults name =>
      match w.resultSubscriptions.lookup name with
      | none => (w, .mail [])
      | some box => w.drain box
    | .unsubscribeResults name =>
      match w.resultSubscriptions.lookup name with
      | none => (w, .done)
      | some box =>
        let w := w.closeMailbox box
        ({ w with resultSubscriptions := w.resultSubscriptions.filter fun s => s.1 ≠ name }, .done)
    | .dropManager => ({ w with manager := none }, .done)
    | _ => (w, .done)

def perform (act : Act) (c : Command) (w : World) : World × Answer :=
  match c with
  | .reply target reply =>
    match w.target? target with
    | none => (w, .refused .noSuchRequest)
    | some index =>
      let w := { w with exchanges := w.exchanges.modify index fun x => { x with reply := some reply } }
      (w.wake (.exchange index), .request index)
  | .drain name =>
    match w.subscriptions.lookup name with
    | none => (w, .refused .noSuchSubscription)
    | some id => w.drain id
  | .unsubscribe name =>
    match w.subscriptions.lookup name with
    | none => (w, .done)
    | some id =>
      let w := w.closeMailbox id
      ({ w with subscriptions := w.subscriptions.filter fun s => s.1 ≠ name }, .done)
  | .drop => w.withLink fun _ => ({ w with link := none, manager := none }, .done)
  | .handle _ | .setNonce _ | .authorize _ _ | .authenticate _ _ | .onResult _ _ _ _
  | .subscribeResults _ | .drainResults _ | .unsubscribeResults _ | .dropManager =>
    w.performOnManager act c
  | c => w.performOnLink act c

/-- What a command does, with listeners at most `n` deep. -/
def performWithin : Nat → Act
  | 0 => fun _ w => (w, .done)
  | n + 1 => perform (performWithin n)

/-- What commands do within a task. -/
def act (w : World) : Act := performWithin w.reach

/-- What a command of the program does, tasks left aside. -/
def ask (c : Command) (w : World) : World × Answer := performWithin (w.reach + c.weight + 1) c w

end World

end XmppBosh.Client
