import XmppBosh.Stringprep.Profile

/-!
# Addresses

An address is a domain, with a node in front of an `@` and a resource behind a `/` where they are
given.

* `Jid.parse` cuts a text at the first `/` and at the first `@` before it, and prepares each part by
  its profile; parts have 1 to 1023 bytes;
* `Jid.text` writes the prepared parts.
-/

namespace XmppBosh

inductive JidError where
  | nodeEmpty
  | domainEmpty
  | resourceEmpty
  | nodeTooLong
  | domainTooLong
  | resourceTooLong
  | nodePrep
  | namePrep
  | resourcePrep
  deriving DecidableEq

def JidError.message : JidError → String
  | nodeEmpty => "nodepart empty despite the presence of a @"
  | domainEmpty => "no domain found in this JID"
  | resourceEmpty => "resource empty despite the presence of a /"
  | nodeTooLong => "localpart longer than 1023 bytes"
  | domainTooLong => "domain longer than 1023 bytes"
  | resourceTooLong => "resource longer than 1023 bytes"
  | nodePrep => "localpart doesn’t pass nodeprep validation"
  | namePrep => "domain doesn’t pass nameprep validation"
  | resourcePrep => "resource doesn’t pass resourceprep validation"

structure Jid where
  node : Option String := none
  domain : String
  resource : Option String := none
  deriving DecidableEq

namespace Jid

def cut? (sep : Char) : List Char → Option (List Char × List Char)
  | [] => none
  | c :: cs => if c = sep then some ([], cs) else (cut? sep cs).map fun (a, b) => (c :: a, b)

/-- A part prepared by its profile, and then between 1 and 1023 bytes long. -/
def part (profile : Stringprep.Profile) (unprepared empty tooLong : JidError) (cs : List Char) :
    Except JidError String :=
  match profile.prepare? (String.ofList cs) with
  | none => .error unprepared
  | some text =>
    if text.utf8ByteSize = 0 then .error empty
    else if 1023 < text.utf8ByteSize then .error tooLong
    else .ok text

def part? (check : List Char → Except JidError String) :
    Option (List Char) → Except JidError (Option String)
  | none => .ok none
  | some cs => (check cs).map some

def parse (text : String) : Except JidError Jid := do
  let (bare, resource) := match cut? '/' text.toList with
    | some (bare, resource) => (bare, some resource)
    | none => (text.toList, none)
  let (node, domain) := match cut? '@' bare with
    | some (node, domain) => (some node, domain)
    | none => (none, bare)
  let node ← part? (part Stringprep.nodeprep .nodePrep .nodeEmpty .nodeTooLong) node
  let domain ← part Stringprep.nameprep .namePrep .domainEmpty .domainTooLong domain
  let resource ← part? (part Stringprep.resourceprep .resourcePrep .resourceEmpty .resourceTooLong) resource
  return { node, domain, resource }

def bareText (j : Jid) : String :=
  match j.node with
  | some node => node ++ "@" ++ j.domain
  | none => j.domain

def text (j : Jid) : String :=
  match j.resource with
  | some resource => j.bareText ++ "/" ++ resource
  | none => j.bareText

end Jid

end XmppBosh
