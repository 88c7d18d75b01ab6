import XmppBosh.Error
import XmppBosh.Text.Base64

/-!
# Accounts

An account is an address with the password stored for it; without a password the login is
anonymous. `Account.secret` is the password in the clear.
-/

namespace XmppBosh

inductive PasswordEncoding where
  /-- In the clear. -/
  | plain
  /-- Base64 of its UTF-8 bytes. -/
  | base64
  deriving DecidableEq

/-- An address, and the password stored for it. -/
structure Account where
  jid : Jid
  password : Option String
  encoding : PasswordEncoding := .plain
  deriving DecidableEq

namespace Account

def isAnonymous (a : Account) : Bool := a.password.isNone

/-- The password in the clear; an absent one reads as the empty one. -/
def secret (a : Account) : Except AuthError String :=
  let stored := a.password.getD ""
  match a.encoding with
  | .plain => .ok stored
  | .base64 =>
    match (Text.Base64.decode? stored).bind Bytes.ofUtf8? with
    | some text => .ok text
    | none => .error .password

end Account

end XmppBosh
