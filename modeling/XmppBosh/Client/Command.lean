import XmppBosh.Bosh.Session
import XmppBosh.Listeners.Registry
import XmppBosh.Sasl.Negotiation

/-!
# What a client program asks for, hears and learns

* `Topic`, `Hub` : what there is to listen to; `Mail` : what a listener hears;
* `Command` : what a program asks for, at the top or from inside a listener;
* `Answer` : what a command returns;
* `Event` : what shows on the outside, in the order in which it happens.
-/

namespace XmppBosh.Client

open Xml

/-! ## Listening -/

inductive Topic where
  /-- A stanza came in. -/
  | received
  /-- A stanza was handed in for sending. -/
  | sent
  /-- A body came in. -/
  | response
  /-- The connection changed its state. -/
  | state
  deriving DecidableEq

/-- Where listeners register: with a link, for one kind of event, or with a manager, for the results
of authentications. Links and managers go by their numbers. -/
inductive Hub where
  | link (id : Nat) (topic : Topic)
  | results (manager : Nat)
  deriving DecidableEq

inductive Mail where
  | stanza (e : Element)
  | notice (n : Bosh.Notice)
  | result (r : Sasl.Result)

/-! ## Asking -/

structure AccountText where
  jid : String
  password : Option String := none
  encoding : PasswordEncoding := .plain

def AccountText.account (t : AccountText) : Except JidError Account :=
  (Jid.parse t.jid).map fun jid => { jid, password := t.password, encoding := t.encoding }

/-- The mechanisms that a server offers: their names, or the element that lists them. -/
inductive Offer where
  | names (list : List String)
  | document (xml : String)

def Offer.element? : Offer → Option Element
  | .names list => some
    { tag := { name := "mechanisms", ns := Namespace.sasl }
      children := list.map fun name =>
        (Element.make "mechanism" Namespace.sasl [] name).toNode }
  | .document xml => Element.parse? xml

/-- One of the requests handed over so far. -/
inductive Target where
  /-- By its number; a negative one counts from the end. -/
  | at (index : Int)
  /-- The first one that has no reply yet. -/
  | oldest
  /-- The last one that has no reply yet. -/
  | newest

inductive Command where
  /-- Starts a session. -/
  | connect
  /-- Ends the session. -/
  | disconnect
  /-- Lets what is pending go out, if it may. -/
  | flush
  /-- Marks what is pending as a request for a new stream. -/
  | restartStream
  /-- Sends a stanza. -/
  | send (xml : String)
  /-- Puts the session aside. -/
  | pause
  /-- Takes a stream up again, or the one that was last put aside. -/
  | resume (stream : Option Bosh.Stream)
  /-- Installs settings for the next session. -/
  | setSettings (settings : Bosh.Settings)
  /-- Asks for the settings. -/
  | settings
  /-- Installs timings. -/
  | setTimings (timings : Bosh.Timings)
  /-- Replies to a request. -/
  | reply (target : Target) (reply : Bosh.Reply)
  /-- Lets time pass. -/
  | advance (ms : Nat)
  /-- Adds a listener that runs commands when it is called, for its first `times` calls. -/
  | listen (topic : Topic) (tag : String) (actions : List Command) (times : Nat) (verdict : Verdict)
  /-- Opens a mailbox for stanzas that come in, or for changes of state. -/
  | subscribe (name : String) (stanzas : Bool)
  /-- Takes everything out of a mailbox. -/
  | drain (name : String)
  /-- Closes a mailbox. -/
  | unsubscribe (name : String)
  /-- Creates a manager of authentications on the link. -/
  | newManager
  /-- Starts a login. -/
  | login (account : AccountText)
  /-- Puts a new link in the place of the link. -/
  | newLink
  /-- Lets go of the link and of the manager. -/
  | drop
  /-- Delivers a stanza to the listeners of the link. -/
  | receive (xml : String)
  /-- Hands a stanza to the manager. -/
  | handle (xml : String)
  /-- Gives the manager a source of nonces that always yields this one, or always fails. -/
  | setNonce (nonce : Option String)
  /-- Begins an authentication. -/
  | authorize (account : AccountText) (offer : Offer)
  /-- Begins an authentication and waits for its result in the background. -/
  | authenticate (account : AccountText) (offer : Offer)
  /-- Adds a listener for results, as `listen` does. -/
  | onResult (tag : String) (actions : List Command) (times : Nat) (verdict : Verdict)
  /-- Opens a mailbox for results. -/
  | subscribeResults (name : String)
  /-- Takes everything out of a mailbox for results. -/
  | drainResults (name : String)
  /-- Closes a mailbox for results. -/
  | unsubscribeResults (name : String)
  /-- Lets go of the manager. -/
  | dropManager

inductive Refusal where
  /-- There is no link any more. -/
  | dropped
  /-- There is no manager. -/
  | noManager
  /-- A text is no document. -/
  | badXml
  /-- No stream has been put aside. -/
  | nothingSaved
  /-- There is no such request, or it has a reply. -/
  | noSuchRequest
  /-- There is no such mailbox. -/
  | noSuchSubscription
  | client (cause : ClientError)
  | auth (cause : AuthError)

inductive Answer where
  | done
  | flag (value : Bool)
  | stream (value : Option Bosh.Stream)
  | settings (value : Option Bosh.Settings)
  /-- The number of the request that got the reply. -/
  | request (index : Nat)
  | mail (content : List Mail)
  /-- What each listener said. -/
  | verdicts (list : List Verdict)
  | refused (why : Refusal)

/-- What shows on the outside. -/
inductive Event where
  /-- A request was handed over. -/
  | request (index : Nat) (request : Bosh.Request)
  /-- A recorder heard an event. -/
  | heard (hub : Hub) (mail : Mail)
  /-- A listener that runs commands was called. -/
  | listener (tag : String)
  /-- A listener's command returned. -/
  | action (answer : Answer)
  /-- A login is through. -/
  | login (outcome : Except ClientError Jid)
  /-- An authentication that was waited for is through. -/
  | authenticated (outcome : Except AuthError Jid)

end XmppBosh.Client
