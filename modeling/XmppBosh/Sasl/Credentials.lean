/-!
# What a mechanism authenticates with

`Credentials` names who logs in, whom to act as, and with which secret. Each part may be missing,
and a mechanism says which it needs.
-/

namespace XmppBosh.Sasl

structure Credentials where
  /-- Who authenticates. -/
  username : Option String := none
  /-- Whom to act as, if that is somebody else. -/
  authzid : Option String := none
  /-- The secret, a password in the clear. -/
  password : Option String := none
  deriving DecidableEq

end XmppBosh.Sasl
