import XmppBosh.Bytes
import XmppBosh.Sasl.Credentials
import XmppBosh.Sasl.Error

/-!
# ANONYMOUS

A login without a secret. There is nothing to say: the first message is empty, a challenge is
refused, and so is data that comes with the success.
-/

namespace XmppBosh.Sasl.Anonymous

/-- Credentials fit when they hold no secret. -/
def accept (credentials : Credentials) : Except MechanismError Unit :=
  if credentials.password.isNone then .ok () else .error .anonymousRequiresNoCredentials

def response (_challenge : Option Bytes) : Except MechanismError Bytes :=
  .error (.unexpectedChallenge "this mechanism takes no challenges")

def success : Option Bytes → Except MechanismError Unit
  | none => .ok ()
  | some _ => .error (.unexpectedChallenge "additional data with success")

end XmppBosh.Sasl.Anonymous
