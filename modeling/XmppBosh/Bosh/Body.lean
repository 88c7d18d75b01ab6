import XmppBosh.Bosh.Settings
import XmppBosh.Xml.Namespace
import XmppBosh.Xml.Printer

/-!
# Bodies

A body is the wrapper in which stanzas travel to the connection manager.

* `Body.numbered` : an empty body with its number and the session's identifier;
* `Body.sessionCreation` : the body that asks for a session;
* `Body.set` : gives an attribute a value, in place when it has one; `Body.push` : one more stanza;
* `Body.text` : the body as it is posted.
-/

namespace XmppBosh.Bosh

open Xml

/-- Attributes in the order in which they were first set, and stanzas in the order of sending. -/
structure Body where
  attributes : List (String × String) := []
  stanzas : List Element := []

namespace Body

/-! ## Building -/

def assign (name value : String) : List (String × String) → List (String × String)
  | [] => [(name, value)]
  | (n, v) :: rest => if n = name then (n, value) :: rest else (n, v) :: assign name value rest

def set (name value : String) (b : Body) : Body :=
  { b with attributes := assign name value b.attributes }

def set? (name : String) (value : Option String) (b : Body) : Body :=
  match value with
  | some value => b.set name value
  | none => b

def push (e : Element) (b : Body) : Body := { b with stanzas := b.stanzas ++ [e] }

/-- An empty body outside of any session. -/
def unnumbered : Body := ({} : Body).set "xmlns" Namespace.httpBind

def numbered (rid : Nat) (sid : Option String) : Body :=
  (unnumbered.set "rid" (toString rid)).set? "sid" sid

def sessionCreation (s : Settings) (rid : Nat) : Body :=
  let b := ({} : Body).set "content" "text/xml; charset=utf-8"
  let b := (b.set "xmlns" Namespace.httpBind).set "xmlns:xmpp" Namespace.xbosh
  let b := ((b.set "ver" s.version).set "xmpp:version" "1.0").set "xml:lang" "en"
  let b := (b.set "ack" "1").set "secure" (if s.secure then "true" else "false")
  let b := ((b.set "rid" (toString rid)).set "to" s.hostName).set? "route" s.route
  (b.set "hold" (toString s.hold)).set "wait" (toString s.wait)

def restart (host : String) (b : Body) : Body :=
  ((b.set "xmlns:xmpp" Namespace.xbosh).set "xmpp:restart" "true").set "to" host |>.set "xml:lang" "en"

/-! ## Writing -/

def escapeChar (c : Char) : List Char :=
  match c with
  | '&' => ['&', 'a', 'm', 'p', ';']
  | '<' => ['&', 'l', 't', ';']
  | '>' => ['&', 'g', 't', ';']
  | '\'' => ['&', 'a', 'p', 'o', 's', ';']
  | '"' => ['&', 'q', 'u', 'o', 't', ';']
  | c => [c]

def escape (value : String) : List Char := value.toList.flatMap escapeChar

/-- An attribute with a space in front. -/
def attributeChars (a : String × String) : List Char :=
  ' ' :: a.1.toList ++ ['=', '\''] ++ escape a.2 ++ ['\'']

def chars (b : Body) : List Char :=
  let head := ['<', 'b', 'o', 'd', 'y'] ++ b.attributes.flatMap attributeChars
  if b.stanzas.isEmpty then head ++ ['/', '>']
  else head ++ ['>'] ++ b.stanzas.flatMap (·.print.toList) ++ ['<', '/', 'b', 'o', 'd', 'y', '>']

/-- The body as it is posted. -/
def text (b : Body) : String := String.ofList b.chars

end Body

end XmppBosh.Bosh
