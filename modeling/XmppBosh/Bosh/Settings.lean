/-!
# Settings of a connection and its timings

* `Settings` : where to connect, and what to ask of the connection manager;
* `Timings` : delays and limits of the client itself, in any unit of time that a second is a multiple of.
-/

namespace XmppBosh.Bosh

structure Settings where
  /-- Where requests are posted. -/
  httpBase : String
  /-- The domain to speak to. -/
  hostName : String
  /-- The host behind the connection manager. -/
  routeHost : Option String := none
  /-- Its port. -/
  routePort : Option Nat := none
  /-- How many requests the connection manager may keep waiting. -/
  hold : Nat := 1
  /-- How long it may keep them, in seconds. -/
  wait : Nat := 60
  /-- How many requests may be unanswered. -/
  maxRequests : Nat := 2
  /-- Whether the way beyond the connection manager has to be secure. -/
  secure : Bool := true
  /-- The version of the protocol to speak. -/
  version : String := "1.6"
  deriving DecidableEq

/-- The route to ask for, when both host and port are set. -/
def Settings.route (s : Settings) : Option String :=
  match s.routeHost, s.routePort with
  | some host, some port => some ("xmpp:" ++ host ++ ":" ++ toString port)
  | _, _ => none

/-- Delays and limits of the client, in milliseconds unless a second has another number of units. -/
structure Timings where
  /-- How many units of time a second has. -/
  second : Nat := 1000
  /-- How long a retry waits. -/
  retryDelay : Nat := 2000
  /-- Retries stop when their delays, as many as there have been errors, add up to more than this. -/
  errorTimeout : Nat := 60000
  /-- How long a request may stay unanswered. -/
  httpTimeout : Nat := 120000
  /-- The period of the heartbeat; zero for none. -/
  heartbeat : Nat := 5000
  /-- How long an idle session waits before it asks again. -/
  continuation : Nat := 300
  deriving DecidableEq

end XmppBosh.Bosh
