import XmppBosh.Bytes
import XmppBosh.Sasl.Credentials
import XmppBosh.Sasl.Error

/-!
# PLAIN

The whole login is one message: whom to act as, who logs in, and the password, with a zero byte
between each two (`Plain.initial`).
-/

namespace XmppBosh.Sasl

structure Plain where
  /-- Whom to act as. -/
  authzid : Option String := none
  username : String
  password : String
  deriving DecidableEq

namespace Plain

/-- Credentials fit when they hold a password and a username. -/
def ofCredentials (credentials : Credentials) : Except MechanismError Plain :=
  match credentials.password, credentials.username with
  | none, _ => .error .plainRequiresPlaintextPassword
  | some _, none => .error .plainRequiresUsername
  | some password, some username => .ok ⟨credentials.authzid, username, password⟩

def initial (p : Plain) : Bytes :=
  Bytes.utf8 (p.authzid.getD "") ++ 0 :: Bytes.utf8 p.username ++ 0 :: Bytes.utf8 p.password

def response (p : Plain) : Option Bytes → Except MechanismError Bytes
  | none => .ok p.initial
  | some _ => .error (.unexpectedChallenge "server gave a challenge to PLAIN")

def success : Option Bytes → Except MechanismError Unit
  | none => .ok ()
  | some _ => .error (.unexpectedChallenge "server gave additional data with success to PLAIN")

end Plain

end XmppBosh.Sasl
