import XmppBosh.Jid
import XmppBosh.Sasl.Error

/-!
# Errors of a client

* `AuthError` : why an authentication failed (`AuthError.ofMechanism` : a server that did not prove
  itself is a cause of its own);
* `ClientError` : why a client's request failed.
-/

namespace XmppBosh

inductive AuthError where
  /-- The server offers no mechanism that the account can use. -/
  | noMechanism
  /-- The mechanism gave up. -/
  | mechanism (cause : Sasl.MechanismError)
  /-- The server did not prove that it knows the password. -/
  | mutualAuthentication
  /-- The server refused, with a condition when it names one. -/
  | failure (condition : Option String)
  /-- The stored password cannot be decoded. -/
  | password
  /-- The connection went away. -/
  | disconnected
  deriving DecidableEq

namespace AuthError

/-- What a mechanism's cause means for the authentication. -/
def ofMechanism (cause : Sasl.MechanismError) : AuthError :=
  if cause.isMutual then mutualAuthentication else mechanism cause

def message : AuthError → String
  | noMechanism => "no matching SASL mechanism available"
  | mechanism cause => "local SASL implementation error: " ++ cause.message
  | mutualAuthentication => "server failed to authenticate itself to the client"
  | failure (some condition) => "failure from server: " ++ condition
  | failure none => "failure from server"
  | password => "password could not be decoded"
  | disconnected => "disconnected during authentication"

end AuthError

inductive ClientError where
  /-- There are no settings to connect with. -/
  | noSettings
  /-- A text is no address. -/
  | jidParse (cause : JidError)
  /-- The authentication failed. -/
  | auth (cause : AuthError)
  /-- The connection closed before the request was through. -/
  | disconnected (reason : String)
  deriving DecidableEq

def ClientError.message : ClientError → String
  | noSettings => "connection settings must be set before connect"
  | jidParse cause => "jid parse error: " ++ cause.message
  | auth cause => "authentication error: " ++ cause.message
  | disconnected reason => "disconnected: " ++ reason

end XmppBosh
