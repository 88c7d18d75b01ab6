import XmppBosh.Sasl.Scram.Attribute
import XmppBosh.Text.Base64
import XmppBosh.Text.Decimal

/-!
# The server-first message

The server answers the client's first message with a nonce, a salt and an iteration count.
`ServerFirst.ofAttributes` collects them from left to right: of a repeated attribute the last value
counts, unknown attributes are passed over, and the first fault met decides the error. Whether the
nonce is a proper extension of the client's is asked last.
-/

namespace XmppBosh.Sasl.Scram

structure ServerFirst where
  nonce : String
  salt : Bytes
  iterations : Nat
  deriving DecidableEq

/-- What has been collected so far. -/
structure ServerFirst.Partial where
  nonce : Option String := none
  salt : Option Bytes := none
  iterations : Option Nat := none

namespace ServerFirst

def Partial.take (p : Partial) (a : Attribute) : Except MechanismError Partial :=
  if a.key = 'r' then .ok { p with nonce := some a.value }
  else if a.key = 's' then
    match Text.Base64.decode? a.value with
    | none => .error (.malformedChallenge "invalid salt")
    | some salt => .ok { p with salt := some salt }
  else if a.key = 'i' then
    match Text.Decimal.count? a.value with
    | none => .error (.malformedChallenge "invalid iteration count")
    | some 0 => .error (.malformedChallenge "iteration count must be positive")
    | some n => .ok { p with iterations := some n }
  else if a.key = 'e' then .error (.serverError a.value)
  else if a.key = 'm' then .error (.malformedChallenge "unsupported mandatory extension")
  else .ok p

/-- All three parts have to be there. -/
def Partial.complete (p : Partial) : Except MechanismError ServerFirst :=
  match p.nonce, p.salt, p.iterations with
  | none, _, _ => .error .noServerNonce
  | _, none, _ => .error .noServerSalt
  | _, _, none => .error .noServerIterations
  | some nonce, some salt, some iterations => .ok ⟨nonce, salt, iterations⟩

def ofAttributes (attributes : List Attribute) : Except MechanismError ServerFirst := do
  (← attributes.foldlM Partial.take {}).complete

/-- Whether `full` begins with `own` and goes on after it. -/
def extendsNonce (own full : String) : Bool :=
  own.toList.isPrefixOf full.toList && own.length < full.length

/-- The choices that a message makes, for a client whose nonce is `clientNonce`. -/
def parse (clientNonce : String) (message : Bytes) : Except MechanismError ServerFirst := do
  let first ← ofAttributes (← Frame.parse message)
  if extendsNonce clientNonce first.nonce then .ok first else .error .invalidServerNonce

end ServerFirst

end XmppBosh.Sasl.Scram
