import XmppBosh.Client.Perform

/-!
# Time and tasks

Tasks run one at a time, first come first served; what has been deferred goes on when none is ready.

* `runTask` : one task;
* `settle` : tasks until there are none;
* `elapse` : time passes, from one alarm to the next, everything settling in between;
* `run` : a command of the program with all that follows from it.
-/

namespace XmppBosh.Client

namespace World

/-- An alarm goes off. The heartbeat is set again for its next beat. -/
def goOff (due link : Nat) (alarm : Bosh.Alarm) (w : World) : World :=
  if w.linkAlive link then
    let w := w.stepSession w.act link (.fire alarm)
    match alarm with
    | .heartbeat period => { w with timers := w.timers ++ [⟨due + period, link, alarm⟩] }
    | _ => w
  else w

/-- Runs one task. An exchange without a reply waits to be told, and an alarm before its time is set
as a timer. What belongs to a link that nobody holds comes to nothing. -/
def runTask (t : Task) (w : World) : World :=
  match t with
  | .exchange id =>
    match w.exchanges[id]? with
    | some { link, text, reply := some reply } =>
      if w.linkAlive link then w.takeReply w.act link text reply else w
    | _ => w
  | .alarm due link alarm =>
    if due ≤ w.now then w.goOff due link alarm
    else { w with timers := w.timers ++ [⟨due, link, alarm⟩] }
  | .login id => w.resumeLogin w.act id
  | .authentication id => w.resumeAuthentication w.act id

/-- Runs tasks until none is ready and none deferred, in at most so many steps. -/
def settleWithin : Nat → World → World
  | 0, w => w
  | n + 1, w =>
    match w.queue with
    | t :: rest => settleWithin n (({ w with queue := rest }).runTask t)
    | [] =>
      if w.deferred.isEmpty then w
      else settleWithin n { w with queue := w.deferred, deferred := [] }

/-- More tasks than a program that comes to rest ever has ready. -/
def patience : Nat := 1000000

def settle (w : World) : World := settleWithin patience w

def nextDue? (w : World) : Option Nat := (w.timers.map Timer.due).min?

/-- Makes every alarm ready that is due at a time, in the order of setting. -/
def ripen (due : Nat) (w : World) : World :=
  let (ripe, rest) := w.timers.partition fun t => t.due ≤ due
  { w with
    now := due
    timers := rest
    queue := w.queue ++ ripe.map fun t => Task.alarm t.due t.link t.alarm }

/-- Time passes up to `goal`, with at most so many stops. -/
def elapseWithin (goal : Nat) : Nat → World → World
  | 0, w => w
  | n + 1, w =>
    match w.nextDue? with
    | some due =>
      if due ≤ goal then elapseWithin goal n (w.ripen due).settle else { w with now := goal }
    | none => { w with now := goal }

/-- Time passes. Alarms at one time are one stop, and each stop is later than the one before. -/
def elapse (ms : Nat) (w : World) : World := elapseWithin (w.now + ms) (ms + 2) w

/-- A command of the program, with all that follows from it. -/
def run (c : Command) (w : World) : World × Answer :=
  let (w, answer) := w.ask c
  let w := w.settle
  match c with
  | .advance ms => (w.elapse ms, answer)
  | _ => (w, answer)

end World

end XmppBosh.Client
