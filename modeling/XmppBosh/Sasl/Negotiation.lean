import XmppBosh.Account
import XmppBosh.Sasl.Mechanism
import XmppBosh.Sasl.Payload
import XmppBosh.Text.Upper
import XmppBosh.Xml.Element
import XmppBosh.Xml.Namespace

/-!
# Negotiating an authentication

An attempt is a mechanism under way for an address; there is one at a time.

* `select` : the mechanism for an account among those that the server offers;
* `request` : a new attempt with the stanza that begins it;
* `receive` : what a stanza does to the attempt (`Reaction`): the attempt after it, the stanza to
  send in return, the result to announce, and the error to report.
-/

namespace XmppBosh.Sasl

open Xml

/-- A mechanism under way for an address. -/
structure Attempt where
  mechanism : Mechanism
  jid : Jid

inductive Result where
  /-- The server accepts the client as this address. -/
  | succeeded (jid : Jid)
  /-- The server refuses, with a condition when it names one. -/
  | failed (condition : Option String)
  /-- The exchange broke down on the client's side. -/
  | error (cause : AuthError)
  deriving DecidableEq

namespace Negotiation

/-! ## Beginning -/

def offered (mechanisms : Element) : List String :=
  (mechanisms.elements.filter fun e => e.name = "mechanism").map fun e =>
    Text.upper (Text.trim e.text)

/-- The mechanism for an account. An anonymous login has its own; else SCRAM-SHA-1 is taken before
PLAIN. -/
def select (account : Account) (mechanisms : Element) (nonce : Except MechanismError String) :
    Except AuthError Mechanism :=
  if account.isAnonymous then .ok .anonymous
  else do
    let names := offered mechanisms
    let password ← account.secret
    let username := account.jid.node.getD ""
    if "SCRAM-SHA-1" ∈ names then
      match Scram.start username password nonce with
      | .ok s => .ok (.scram s)
      | .error e => .error (.ofMechanism e)
    else if "PLAIN" ∈ names then .ok (.plain ⟨some account.jid.bareText, username, password⟩)
    else .error .noMechanism

def authStanza (mechanism : String) (initial : Bytes) : Element :=
  .make "auth" Namespace.sasl [("mechanism", mechanism)] ((Payload.encode (some initial)).getD "")

def responseStanza (answer : Bytes) : Element :=
  .make "response" Namespace.sasl [] ((Payload.encode (some answer)).getD "")

def request (account : Account) (mechanisms : Element) (nonce : Except MechanismError String) :
    Except AuthError (Attempt × Element) := do
  let mechanism ← select account mechanisms nonce
  let (started, initial) := mechanism.initial
  return ({ mechanism := started, jid := account.jid }, authStanza mechanism.name initial)

/-! ## Going on -/

structure Reaction where
  /-- The attempt after it. -/
  attempt : Option Attempt
  /-- The stanza to send in return. -/
  reply : Option Element := none
  /-- The result to announce. -/
  result : Option Result := none

def Reaction.error? (r : Reaction) : Option AuthError :=
  match r.result with
  | some (.error cause) => some cause
  | _ => none

def breakDown (cause : MechanismError) : Reaction :=
  { attempt := none, result := some (.error (.ofMechanism cause)) }

def challenge (attempt : Attempt) (text : String) : Reaction :=
  match Payload.decode text with
  | .error cause => breakDown cause
  | .ok payload =>
    match attempt.mechanism.response payload with
    | (_, .error cause) => breakDown cause
    | (mechanism, .ok answer) =>
      { attempt := some { attempt with mechanism }, reply := some (responseStanza answer) }

/-- The server's success for the attempt under way, which ends here either way. -/
def success (attempt : Attempt) (text : String) : Reaction :=
  match Payload.decode text with
  | .error cause => breakDown cause
  | .ok payload =>
    match (attempt.mechanism.success payload).2 with
    | .error cause => breakDown cause
    | .ok () => { attempt := none, result := some (.succeeded attempt.jid) }

/-- The server's refusal. Its condition is the name of the first element inside. -/
def failure (stanza : Element) : Reaction :=
  { attempt := none, result := some (.failed (stanza.elements.head?.map Element.name)) }

/-- What a stanza does to the attempt under way. Challenges and successes without an attempt are
passed over, and so is every stanza outside of authentication. -/
def receive (attempt : Option Attempt) (stanza : Element) : Reaction :=
  if stanza.ns ≠ Namespace.sasl then { attempt }
  else if stanza.name = "failure" then failure stanza
  else match attempt with
    | none => { attempt }
    | some current =>
      if stanza.name = "challenge" then challenge current stanza.text
      else if stanza.name = "success" then success current stanza.text
      else { attempt }

end Negotiation

end XmppBosh.Sasl
