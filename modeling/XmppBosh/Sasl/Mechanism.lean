import XmppBosh.Sasl.Anonymous
import XmppBosh.Sasl.Plain
import XmppBosh.Sasl.Scram.Exchange

/-!
# Mechanisms

`Mechanism` is one of ANONYMOUS, PLAIN and SCRAM-SHA-1 with its exchange so far. All three are
driven by the same three calls: `initial`, `response` to a challenge, and `success`. A payload that
is absent is told apart from one that is empty.
-/

namespace XmppBosh.Sasl

/-- A mechanism with its exchange so far. -/
inductive Mechanism where
  | anonymous
  | plain (p : Plain)
  | scram (s : Scram)
  deriving DecidableEq

namespace Mechanism

def name : Mechanism → String
  | anonymous => "ANONYMOUS"
  | plain _ => "PLAIN"
  | scram _ => "SCRAM-SHA-1"

def initial : Mechanism → Mechanism × Bytes
  | anonymous => (anonymous, [])
  | plain p => (plain p, p.initial)
  | scram s => let (s, message) := s.initial; (scram s, message)

def response (m : Mechanism) (challenge : Option Bytes) : Mechanism × Except MechanismError Bytes :=
  match m with
  | anonymous => (anonymous, Anonymous.response challenge)
  | plain p => (plain p, p.response challenge)
  | scram s => let (s, answer) := s.response challenge; (scram s, answer)

def success (m : Mechanism) (data : Option Bytes) : Mechanism × Except MechanismError Unit :=
  match m with
  | anonymous => (anonymous, Anonymous.success data)
  | plain p => (plain p, Plain.success data)
  | scram s => let (s, verdict) := s.success data; (scram s, verdict)

end Mechanism

end XmppBosh.Sasl
