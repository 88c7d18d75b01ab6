import XmppBosh.Bosh.Body
import XmppBosh.Bosh.Failure
import XmppBosh.Bosh.Stream
import XmppBosh.Error
import XmppBosh.Text.Decimal
import XmppBosh.Xml.Reader

/-!
# A session over a sequence of requests

A session carries one stream of stanzas over requests of which only a few may be unanswered at a
time. What is to be sent gathers in a pending body, which goes out as soon as it may.

* `Session` : the state; `Session.maySend` : whether the pending body may go out; `Session.hasErrors` :
  whether requests are being repeated;
* `Outcome` : a new state, what is to be done about it (`Effect`), and what is to be announced
  (`Notice`), each in order;
* `connect`, `disconnect`, `send`, `flush`, `pause`, `resume`, `restart` : what the client asks for;
* `answer` : the reply to a request; a body that it carries (`carried?`) is opened by `openBody`
  before its stanzas are handed out, and closed by `closeBody` afterwards;
* `fire` : an alarm that has gone off;
* `Input`, `Session.step` : all of these as one step, so that a run is a list of inputs.

Time and the first number of a session come in as arguments, so every operation is a function.
-/

namespace XmppBosh.Bosh

open Xml

/-! ## State -/

structure Session where
  settings : Option Settings := none
  timings : Timings := {}
  /-- What is agreed with the connection manager; it outlives the session. -/
  stream : Option Stream := none
  active : Bool := false
  /-- What is to go out next. -/
  pending : Option Body := none
  /-- How many requests are unanswered or wait for their retry. -/
  outstanding : Nat := 0
  /-- How many errors there have been since the last connect. -/
  errors : Nat := 0
  /-- The requests that are being repeated; nothing new goes out meanwhile. -/
  retrying : List String := []
  /-- How many bodies are being handed out; what is sent meanwhile goes out together. -/
  dispatching : Nat := 0
  /-- Whether the heartbeat has been started. -/
  beating : Bool := false

structure Request where
  address : String
  timeout : Nat
  text : String
  deriving DecidableEq

/-- What is to be done when some time has passed. -/
inductive Alarm where
  /-- Repeat a request of the session with this identifier. -/
  | retry (request : String) (sid : Option String)
  /-- Ask the server again, unless something has been sent after this number. -/
  | continuation (rid : Nat)
  /-- See whether the session has fallen silent; this goes off again and again. -/
  | heartbeat (period : Nat)
  deriving DecidableEq

inductive Effect where
  | post (request : Request)
  | arm (delay : Nat) (alarm : Alarm)
  deriving DecidableEq

/-- What is announced about the connection. -/
inductive Notice where
  | connected
  | disconnected (reason : String)
  | error (reason : String)
  | waitingForRetry (attempt delay : Nat)
  deriving DecidableEq

/-- A new state, what is to be done, and what is to be announced. -/
structure Outcome where
  session : Session
  effects : List Effect := []
  notices : List Notice := []

inductive Reply where
  | response (status : Nat) (content : String)
  | failure (cause : Failure)
  deriving DecidableEq

/-- What a session does next, after what it has done. -/
def Outcome.andThen (o : Outcome) (next : Session → Outcome) : Outcome :=
  let n := next o.session
  { session := n.session, effects := o.effects ++ n.effects, notices := o.notices ++ n.notices }

def Outcome.announce (o : Outcome) (notices : List Notice) : Outcome :=
  { o with notices := o.notices ++ notices }

namespace Session

/-! ## Sending -/

/-- How many requests may be unanswered; none without settings. -/
def maxRequests (s : Session) : Nat := (s.settings.map Settings.maxRequests).getD 0

/-- Whether the pending body may go out. -/
def maySend (s : Session) : Bool :=
  s.dispatching = 0 && s.active && decide (s.outstanding < s.maxRequests) && s.retrying.isEmpty

/-- Whether requests are being repeated. -/
def hasErrors (s : Session) : Bool := !s.retrying.isEmpty

/-- The state with the pending body changed; when there is none, a new one with the next number. -/
def edit (change : Body → Body) (s : Session) : Session :=
  match s.pending, s.stream with
  | some body, _ => { s with pending := some (change body) }
  | none, some stream =>
    let stream := stream.advance
    { s with stream := some stream, pending := some (change (.numbered stream.rid stream.sid)) }
  | none, none => { s with pending := some (change .unnumbered) }

def requestTimeout (s : Session) : Nat :=
  match s.stream with
  | some stream => stream.requestTimeout s.timings
  | none => s.timings.httpTimeout

/-- Hands a request over. Without settings there is nowhere to post it, and it is lost. -/
def transmit (now : Nat) (text : String) (s : Session) : Outcome :=
  match s.settings with
  | none => { session := s }
  | some settings =>
    { session := { s with
        outstanding := s.outstanding + 1
        stream := s.stream.map fun stream => { stream with lastRequest := some now } }
      effects := [.post { address := settings.httpBase, timeout := s.requestTimeout, text }] }

/-- Lets the pending body go out, whether it may or not. -/
def release (now : Nat) (s : Session) : Outcome :=
  match s.pending with
  | none => { session := s }
  | some body => transmit now body.text { s with pending := none }

def flush (now : Nat) (s : Session) : Outcome :=
  if s.maySend then s.release now else { session := s }

def send (now : Nat) (stanza : Element) (s : Session) : Outcome :=
  (s.edit (Body.push stanza)).flush now

/-- Marks the pending body as a request for a new stream. -/
def restart (s : Session) : Session :=
  s.edit (Body.restart ((s.settings.map Settings.hostName).getD ""))

/-! ## Keeping a request open -/

/-- When no request is unanswered, sends what is pending, or sees to it that the server is asked
again after a while. -/
def keepOpen (now : Nat) (s : Session) : Outcome :=
  match s.stream with
  | none => { session := s }
  | some stream =>
    if s.outstanding = 0 then
      if s.pending.isSome then s.flush now
      else { session := s, effects := [.arm s.timings.continuation (.continuation stream.rid)] }
    else { session := s }

/-- Starts the heartbeat, once, if it has a period. -/
def startHeartbeat (s : Session) : Outcome :=
  let period := s.timings.heartbeat
  if s.beating || period = 0 then { session := s }
  else { session := { s with beating := true }, effects := [.arm period (.heartbeat period)] }

/-! ## Beginning and ending -/

/-- Starts a session, unless one is active. The number of its first request is the one after
`start`. Requests that were being repeated are forgotten either way. Without settings nothing is
done at all. -/
def connect (now start : Nat) (s : Session) : Outcome :=
  match s.settings with
  | none => { session := s }
  | some settings =>
    let s := { s with errors := 0, retrying := [] }
    if s.active then { session := s }
    else
      let stream := ({ rid := start } : Stream).advance
      let s := { s with
        active := true, stream := some stream, outstanding := 0
        pending := some (.sessionCreation settings stream.rid) }
      (s.flush now).andThen startHeartbeat

def connectError? (s : Session) : Option ClientError :=
  if s.settings.isNone then some .noSettings else none

/-- Ends the session with a last body, in place of the pending one. -/
def disconnect (now : Nat) (s : Session) : Outcome :=
  let s := { s with pending := none }
  let last : Outcome :=
    if s.stream.isSome then (s.edit (Body.set "type" "terminate")).release now else { session := s }
  { last with
    session := { last.session with
      active := false
      stream := last.session.stream.map fun stream => { stream with sid := none } }
    notices := [.disconnected "logged out"] }

/-- How long the server allows to put the session aside; not at all before it has given the session
an identifier. -/
def maxPause? (s : Session) : Option Nat :=
  s.stream.bind fun stream => if stream.sid.isSome then stream.maxPause else none

/-- Puts the session aside, if the server allows it: asks the server to keep it without requests.
The stream after this is the one to take up again. -/
def pause (now : Nat) (s : Session) : Outcome :=
  match s.maxPause? with
  | none => { session := s }
  | some seconds => (s.edit (Body.set "pause" (toString seconds))).release now

def resume (now : Nat) (stream : Stream) (s : Session) : Outcome :=
  ({ s with active := true, stream := some stream }.keepOpen now).andThen startHeartbeat

/-! ## Errors -/

/-- The stream's limit for retries, or the client's own. -/
def errorTimeout (s : Session) : Nat :=
  match s.stream with
  | some stream => stream.errorTimeout s.timings
  | none => s.timings.errorTimeout

def giveUp (now : Nat) (reason : String) (s : Session) : Outcome :=
  let last := ({ s with outstanding := s.outstanding - 1 } : Session).disconnect now
  { last with notices := .error reason :: last.notices }

/-- A request went wrong. It is repeated after a while, unless the errors have used up the time that
there is for them. -/
def fail (now : Nat) (request reason : String) (s : Session) : Outcome :=
  if !s.active then { session := s }
  else
    let s := { s with
      errors := s.errors + 1
      retrying := if s.retrying.contains request then s.retrying else s.retrying ++ [request] }
    let delay := s.timings.retryDelay
    if s.errorTimeout < delay * s.errors then s.giveUp now ("Connection error: " ++ reason)
    else
      { session := s
        effects := [.arm delay (.retry request (s.stream.bind Stream.sid))]
        notices := [.waitingForRetry s.errors delay] }

/-! ## Replies -/

/-- The body that a response carries, or why it carries none. -/
def readBody (content : String) : Except String Element :=
  match Element.parse? content with
  | none => .error "<xml>"
  | some e => if e.name = "body" then .ok e else .error ("expected <body/>, got <" ++ e.name ++ "/>")

/-- The body that a reply carries for a session. A session that is not active does not look at
replies. -/
def carried? (reply : Reply) (s : Session) : Option Element :=
  match reply with
  | .failure _ => none
  | .response status content =>
    if s.active ∧ (status = 200 ∨ status = 0) then (readBody content).toOption else none

/-- What a reply leads to, a body that it carries aside. -/
def answer (now : Nat) (request : String) (reply : Reply) (s : Session) : Outcome :=
  if !s.active then { session := s }
  else match reply with
    | .failure cause => s.fail now request cause.message
    | .response status content =>
      if status = 404 then
        s.giveUp now ("404 Connection Error (session removed ?!) : " ++ content)
      else if status = 200 ∨ status = 0 then
        match readBody content with
        | .ok _ =>
          { session := { s with
              outstanding := s.outstanding - 1
              retrying := s.retrying.erase request } }
        | .error why => s.fail now request ("Bad response: " ++ toString status ++ " " ++ why)
      else s.fail now request ("Bad status: " ++ toString status ++ " " ++ content)

def isTerminal (body : Element) : Bool :=
  body.attr? "type" = some "terminate" || body.attr? "type" = some "terminal"

/-- What the server has settled about the session. -/
def establish (body : Element) (stream : Stream) : Stream :=
  { stream with
    sid := body.attr? "sid"
    wait := (body.attr? "wait").bind Text.Decimal.count?
    inactivity := (body.attr? "inactivity").bind Text.Decimal.count?
    maxPause := (body.attr? "maxpause").bind Text.Decimal.count? }

/-- Begins to hand out a body, or ends the session if that is what the body says. Nothing is done
when the session has ended meanwhile. -/
def openBody (body : Element) (s : Session) : Outcome :=
  if !s.active then { session := s }
  else if isTerminal body then
    { session := { s with
        active := false, stream := s.stream.map fun stream => { stream with sid := none } }
      notices := [.disconnected "disconnected by server"] }
  else
    let s := { s with dispatching := s.dispatching + 1 }
    match s.stream with
    | none => { session := s }
    | some stream =>
      if stream.sid.isSome then { session := s }
      else { session := { s with stream := some (establish body stream) }, notices := [.connected] }

/-- A body has been handed out. -/
def closeBody (now : Nat) (s : Session) : Outcome :=
  ({ s with dispatching := s.dispatching - 1 } : Session).keepOpen now

/-! ## Alarms -/

/-- Whether nothing has happened since the request with this number. -/
def isIdle (rid : Nat) (s : Session) : Bool :=
  s.active && s.pending.isNone && s.outstanding = 0 && s.retrying.isEmpty
    && (s.stream.map Stream.rid) = some rid

def fire (now : Nat) (alarm : Alarm) (s : Session) : Outcome :=
  match alarm with
  | .retry request sid =>
    if s.active && s.stream.map Stream.sid = some sid then
      ({ s with outstanding := s.outstanding - 1 } : Session).transmit now request
    else { session := s }
  | .continuation rid =>
    if s.isIdle rid then (s.edit id).flush now else { session := s }
  | .heartbeat _ =>
    if s.active && s.retrying.isEmpty then s.keepOpen now else { session := s }

end Session

/-! ## Steps -/

inductive Input where
  | connect (start : Nat)
  | disconnect
  | send (stanza : Element)
  | flush
  | restart
  | pause
  | resume (stream : Stream)
  | setSettings (settings : Settings)
  | setTimings (timings : Timings)
  | answer (request : String) (reply : Reply)
  | openBody (body : Element)
  | closeBody
  | fire (alarm : Alarm)

def Session.step (now : Nat) (i : Input) (s : Session) : Outcome :=
  match i with
  | .connect start => s.connect now start
  | .disconnect => s.disconnect now
  | .send stanza => s.send now stanza
  | .flush => s.flush now
  | .restart => { session := s.restart }
  | .pause => s.pause now
  | .resume stream => s.resume now stream
  | .setSettings settings => { session := { s with settings := some settings } }
  | .setTimings timings => { session := { s with timings } }
  | .answer request reply => s.answer now request reply
  | .openBody body => s.openBody body
  | .closeBody => s.closeBody now
  | .fire alarm => s.fire now alarm

end XmppBosh.Bosh
