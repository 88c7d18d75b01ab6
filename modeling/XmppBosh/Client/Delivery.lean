import XmppBosh.Client.World

/-!
# Delivering events to listeners

An event goes to the listeners of one registry, in the order of registration. What a listener's
commands do is the argument `act`, so that delivery itself does not recur:

* `hear` : a recorder, a mailbox or a script hears an event;
* `tell` : an event for all listeners of a registry, none of them a manager;
* `stepSession` : a step of a link's session, with all that follows from it at once; a session
  changes in no other way;
* `sendOn` : a stanza goes out over a link;
* `handle` : a manager goes on with a stanza;
* `hearStanza`, `deliverStanza` : a stanza that came in, for managers too;
* `takeReply`, `takeBody`, `handOut` : the reply to a request, the body in it, and its stanzas.
-/

namespace XmppBosh.Client

open Xml

abbrev Act := Command → World → World × Answer

namespace World

def registry (hub : Hub) (w : World) : Registry Listener :=
  match hub with
  | .link id topic => (w.links[id]?.map (·.registry topic)).getD {}
  | .results id => (w.managers[id]?.map Manager.results).getD {}

def updateRegistry (hub : Hub) (change : Registry Listener → Registry Listener) (w : World) : World :=
  match hub with
  | .link id topic => w.modifyLink id (·.update topic change)
  | .results id => w.modifyManager id fun m => { m with results := change m.results }

def addListener (hub : Hub) (l : Listener) (w : World) : World := w.updateRegistry hub (·.add l)

/-- Whether a listener is there to hear; a mailbox that is closed is not. -/
def present (w : World) : Listener → Bool
  | .mailbox id => w.mailboxes[id]?.any Mailbox.isOpen
  | _ => true

/-! ## Listeners -/

def runActions (act : Act) : List Command → World → World
  | [], w => w
  | c :: cs, w =>
    let (w, answer) := act c w
    runActions act cs (w.note (.action answer))

def callScript (act : Act) (id : Nat) (w : World) : World × Verdict :=
  match w.scripts[id]? with
  | none => (w, .ok)
  | some s =>
    let w := w.note (.listener s.tag)
    if s.left = 0 then (w, s.verdict)
    else
      let w := { w with scripts := w.scripts.modify id fun s => { s with left := s.left - 1 } }
      (w.runActions act s.actions, s.verdict)

/-- A listener hears an event. A manager takes no part in events other than stanzas that come in. -/
def hear (act : Act) (hub : Hub) (mail : Mail) (l : Listener) (w : World) : World × Verdict :=
  match l with
  | .recorder => (w.note (.heard hub mail), .ok)
  | .mailbox id => (w.deposit id mail, .ok)
  | .script id => w.callScript act id
  | .manager _ => (w, .ok)

def tell (act : Act) (hub : Hub) (mail : Mail) (w : World) : World :=
  (emit (registry hub) (updateRegistry hub) present (hear act hub mail) w).1

/-! ## Sessions -/

def doEffect (link : Nat) (w : World) : Bosh.Effect → World
  | .post request =>
    let id := w.exchanges.length
    let w := { w with exchanges := w.exchanges ++ [({ link, text := request.text } : Exchange)] }
    (w.note (.request id request)).spawn (.exchange id)
  | .arm delay alarm => w.spawn (.alarm (w.now + delay) link alarm)

/-- A step of a link's session: takes over its new state, does what it asks for, and announces what
there is to announce. -/
def stepSession (act : Act) (link : Nat) (i : Bosh.Input) (w : World) : World :=
  match w.session? link with
  | none => w
  | some s =>
    let o := s.step w.now i
    let w := w.modifyLink link fun l => { l with session := some o.session }
    let w := o.effects.foldl (doEffect link) w
    o.notices.foldl (fun w n => w.tell act (.link link .state) (.notice n)) w

def sendOn (act : Act) (link : Nat) (stanza : Element) (w : World) : World :=
  (w.stepSession act link (.send stanza)).tell act (.link link .sent) (.stanza stanza)

/-! ## Managers -/

/-- A manager goes on with a stanza: it takes over the attempt, sends its reply, and announces the
result; the error that it reports is returned. -/
def handle (act : Act) (id : Nat) (stanza : Element) (w : World) : World × Option AuthError :=
  match w.managers[id]? with
  | none => (w, none)
  | some m =>
    let r := Sasl.Negotiation.receive m.attempt stanza
    let w := w.modifyManager id fun m => { m with attempt := r.attempt }
    let w := match r.reply with
      | some reply => w.sendOn act m.link reply
      | none => w
    let w := match r.result with
      | some result => w.tell act (.results id) (.result result)
      | none => w
    (w, r.error?)

def hearStanza (act : Act) (link : Nat) (stanza : Element) (l : Listener) (w : World) :
    World × Verdict :=
  match l with
  | .manager id =>
    if w.managerAlive id then
      let (w, error) := w.handle act id stanza
      (w, match error with
        | some e => .failed e.message
        | none => .ok)
    else (w, .closed)
  | l => w.hear act (.link link .received) (.stanza stanza) l

def deliverStanza (act : Act) (link : Nat) (stanza : Element) (w : World) : World × List Verdict :=
  let hub := Hub.link link .received
  emit (registry hub) (updateRegistry hub) present (hearStanza act link stanza) w

/-! ## Bodies -/

def isActive (w : World) (link : Nat) : Bool := (w.session? link).any Bosh.Session.active

/-- Hands out stanzas one after the other, as long as the session is active. -/
def handOut (act : Act) (link : Nat) : List Element → World → World
  | [], w => w
  | e :: es, w =>
    if w.isActive link then handOut act link es (w.deliverStanza act link e).1 else w

/-- A body that came in: it is announced as a whole, then its stanzas are handed out. -/
def takeBody (act : Act) (link : Nat) (body : Element) (w : World) : World :=
  let w := w.tell act (.link link .response) (.stanza body)
  if w.isActive link then
    let w := w.stepSession act link (.openBody body)
    if Bosh.Session.isTerminal body then w
    else (handOut act link body.elements w).stepSession act link .closeBody
  else w

def takeReply (act : Act) (link : Nat) (request : String) (reply : Bosh.Reply) (w : World) : World :=
  let body := (w.session? link).bind fun s => s.carried? reply
  let w := w.stepSession act link (.answer request reply)
  match body with
  | some body => w.takeBody act link body
  | none => w

end World

end XmppBosh.Client
