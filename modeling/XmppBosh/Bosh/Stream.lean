import XmppBosh.Bosh.Settings

/-!
# The stream of a session

A stream is what a session and the connection manager have agreed on: the session's identifier, the
number of the last request, and the limits that the server announced. A stream that was put aside
and is taken up again goes on where it was.
-/

namespace XmppBosh.Bosh

/-- What a session and the connection manager have agreed on. -/
structure Stream where
  /-- The session's identifier, once the server has given one. -/
  sid : Option String := none
  /-- The number of the last request. -/
  rid : Nat
  /-- How long the server keeps a request, in seconds. -/
  wait : Option Nat := none
  /-- How long the session may be silent, in seconds. -/
  inactivity : Option Nat := none
  /-- How long the session may be put aside, in seconds. -/
  maxPause : Option Nat := none
  /-- When the last request was handed over. -/
  lastRequest : Option Nat := none
  deriving DecidableEq

namespace Stream

def advance (s : Stream) : Stream := { s with rid := s.rid + 1 }

/-- How long a request may stay unanswered: as long as the server keeps it and half the time of silence,
or the client's own limit while the server has announced none. -/
def requestTimeout (s : Stream) (t : Timings) : Nat :=
  match s.wait, s.inactivity with
  | some wait, some inactivity =>
    if 0 < wait ∧ 0 < inactivity then (wait + inactivity / 2) * t.second else t.httpTimeout
  | _, _ => t.httpTimeout

/-- How long a retry may be put off. -/
def errorTimeout (s : Stream) (t : Timings) : Nat :=
  match s.inactivity with
  | some inactivity => if 0 < inactivity then inactivity * t.second else t.errorTimeout
  | none => t.errorTimeout

end Stream

end XmppBosh.Bosh
