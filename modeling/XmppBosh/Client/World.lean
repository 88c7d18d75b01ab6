import XmppBosh.Client.Command

/-!
# The state of a client program

* `Link` : a connection with its four registries of listeners;
* `Manager` : an authentication negotiated over a link, with its registry;
* `Exchange`, `Task`, `Timer` : requests with their replies, what is ready to run, and what waits
  for its time;
* `Mailbox`, `Script` : listeners that keep what they hear, and listeners that run commands;
* `Login`, `Authentication` : procedures in the background;
* `World` : all of it, with the log of events.

A link lives as long as the program, a manager or a login holds it, a manager as long as the program
or a procedure does (`World.linkAlive`, `World.managerAlive`).
-/

namespace XmppBosh.Client

open Xml

/-- Who hears the events of a registry. -/
inductive Listener where
  /-- Notes everything down in the log. -/
  | recorder
  /-- Runs commands. -/
  | script (id : Nat)
  /-- Keeps what it hears. -/
  | mailbox (id : Nat)
  /-- Goes on with an authentication; this one only listens for stanzas that come in. -/
  | manager (id : Nat)
  deriving DecidableEq

/-- A connection: a session, or a bare one that only passes stanzas on. -/
structure Link where
  session : Option Bosh.Session := none
  received : Registry Listener := {}
  sent : Registry Listener := {}
  responses : Registry Listener := {}
  states : Registry Listener := {}

def Link.registry (l : Link) : Topic → Registry Listener
  | .received => l.received
  | .sent => l.sent
  | .response => l.responses
  | .state => l.states

def Link.update (topic : Topic) (change : Registry Listener → Registry Listener) (l : Link) : Link :=
  match topic with
  | .received => { l with received := change l.received }
  | .sent => { l with sent := change l.sent }
  | .response => { l with responses := change l.responses }
  | .state => { l with states := change l.states }

structure Manager where
  link : Nat
  nonce : Except Sasl.MechanismError String
  attempt : Option Sasl.Attempt := none
  results : Registry Listener := {}

structure Exchange where
  link : Nat
  text : String
  reply : Option Bosh.Reply := none

inductive Task where
  /-- Look whether an exchange has its reply. -/
  | exchange (id : Nat)
  /-- Wait for an alarm, or let it go off when it is due. -/
  | alarm (due link : Nat) (alarm : Bosh.Alarm)
  /-- Go on with a login. -/
  | login (id : Nat)
  /-- Go on with an authentication that is waited for. -/
  | authentication (id : Nat)
  deriving DecidableEq

structure Timer where
  due : Nat
  link : Nat
  alarm : Bosh.Alarm

/-- A listener that keeps what it hears, and whom to tell. -/
structure Mailbox where
  content : List Mail := []
  isOpen : Bool := true
  /-- The task that waits for the next piece. -/
  waiter : Option Task := none

/-- A listener that runs commands on its first calls. -/
structure Script where
  tag : String
  actions : List Command
  /-- How many calls are left on which the commands run. -/
  left : Nat
  verdict : Verdict

inductive LoginPhase where
  | entering
  /-- It waits for the server's features. -/
  | waiting (stanzas states manager : Nat)
  /-- It has been offered mechanisms. -/
  | offered (stanzas states manager : Nat) (mechanisms : Element)
  /-- It waits for the result of the authentication. -/
  | authenticating (stanzas states manager results : Nat)
  | finished

structure Login where
  link : Nat
  account : Account
  phase : LoginPhase := .entering

inductive AuthenticationPhase where
  | entering
  | waiting (results : Nat)
  | finished

structure Authentication where
  manager : Nat
  account : Account
  mechanisms : Element
  phase : AuthenticationPhase := .entering

def Login.manager? (l : Login) : Option Nat :=
  match l.phase with
  | .waiting _ _ manager | .offered _ _ manager _ | .authenticating _ _ manager _ => some manager
  | .entering | .finished => none

def Login.isRunning (l : Login) : Bool :=
  match l.phase with
  | .finished => false
  | _ => true

def Authentication.isRunning (a : Authentication) : Bool :=
  match a.phase with
  | .finished => false
  | _ => true

/-- The state of a client program. -/
structure World where
  /-- The time, in the unit of the timings. -/
  now : Nat := 0
  /-- What each session counts its requests from. -/
  starts : Nat → Nat
  /-- How many sessions have been started. -/
  sessions : Nat := 0
  /-- What the random source of nonces yields. -/
  nonce : String
  links : List Link := []
  managers : List Manager := []
  exchanges : List Exchange := []
  scripts : List Script := []
  mailboxes : List Mailbox := []
  logins : List Login := []
  authentications : List Authentication := []
  /-- What is ready to run, first come first served. -/
  queue : List Task := []
  /-- What goes on as soon as nothing is ready any more. -/
  deferred : List Task := []
  /-- What waits for its time, in the order of setting. -/
  timers : List Timer := []
  /-- The program's link. -/
  link : Option Nat := none
  /-- The program's manager. -/
  manager : Option Nat := none
  /-- The stream that was last put aside. -/
  saved : Option Bosh.Stream := none
  /-- The program's mailboxes by name, for links and for results. -/
  subscriptions : List (String × Nat) := []
  resultSubscriptions : List (String × Nat) := []
  /-- What has shown on the outside. -/
  log : List Event := []

namespace World

/-! ## Parts -/

def session? (w : World) (link : Nat) : Option Bosh.Session := w.links[link]?.bind Link.session

def currentSession? (w : World) : Option Bosh.Session := w.link.bind w.session?

def note (e : Event) (w : World) : World := { w with log := w.log ++ [e] }

def modifyLink (id : Nat) (change : Link → Link) (w : World) : World :=
  { w with links := w.links.modify id change }

def modifyManager (id : Nat) (change : Manager → Manager) (w : World) : World :=
  { w with managers := w.managers.modify id change }

def modifyMailbox (id : Nat) (change : Mailbox → Mailbox) (w : World) : World :=
  { w with mailboxes := w.mailboxes.modify id change }

def setLoginPhase (id : Nat) (phase : LoginPhase) (w : World) : World :=
  { w with logins := w.logins.modify id fun l => { l with phase } }

def setAuthenticationPhase (id : Nat) (phase : AuthenticationPhase) (w : World) : World :=
  { w with authentications := w.authentications.modify id fun a => { a with phase } }

/-! ## Lifetimes -/

/-- Whether anybody holds a manager. -/
def managerAlive (w : World) (manager : Nat) : Bool :=
  w.manager = some manager
    || w.logins.any (fun l => l.manager? = some manager)
    || w.authentications.any (fun a => a.isRunning && a.manager = manager)

def linkAlive (w : World) (link : Nat) : Bool :=
  w.link = some link
    || w.logins.any (fun l => l.isRunning && l.link = link)
    || (List.range w.managers.length).any fun id =>
      w.managerAlive id && (w.managers[id]?).any fun m => m.link = link

/-! ## Tasks and mailboxes -/

/-- Puts a task at the end of the queue, unless it is in it. -/
def wake (t : Task) (w : World) : World :=
  if w.queue.contains t then w else { w with queue := w.queue ++ [t] }

def spawn (t : Task) (w : World) : World := { w with queue := w.queue ++ [t] }

/-- Has a task go on as soon as nothing is ready any more. -/
def defer (t : Task) (w : World) : World :=
  if w.deferred.contains t then w else { w with deferred := w.deferred ++ [t] }

def openMailbox (w : World) : World × Nat :=
  ({ w with mailboxes := w.mailboxes ++ [{}] }, w.mailboxes.length)

def closeMailbox (id : Nat) (w : World) : World :=
  w.modifyMailbox id fun b => { b with content := [], isOpen := false, waiter := none }

def content (id : Nat) (w : World) : List Mail := (w.mailboxes[id]?.map Mailbox.content).getD []

/-- What is left in a mailbox. -/
def keep (id : Nat) (content : List Mail) (w : World) : World :=
  w.modifyMailbox id fun b => { b with content }

def emptyMailbox (id : Nat) (w : World) : World := w.keep id []

/-- Takes everything out of a mailbox, and has a task told of the next piece. -/
def await (id : Nat) (t : Task) (w : World) : World :=
  w.modifyMailbox id fun b => { b with content := [], waiter := some t }

/-- One more piece for a mailbox; the task that waits for it can run. -/
def deposit (id : Nat) (mail : Mail) (w : World) : World :=
  match w.mailboxes[id]? with
  | none => w
  | some b =>
    if b.isOpen then
      let w := w.modifyMailbox id fun b => { b with content := b.content ++ [mail], waiter := none }
      match b.waiter with
      | some t => w.wake t
      | none => w
    else w

end World

end XmppBosh.Client
