/-!
# Why a mechanism gives up

* `MechanismError` : the causes, one constructor each;
* `MechanismError.message` : the text shown for a cause;
* `MechanismError.isMutual` : the causes that say that the server did not prove itself.
-/

namespace XmppBosh.Sasl

inductive MechanismError where
  /-- ANONYMOUS was given a secret. -/
  | anonymousRequiresNoCredentials
  /-- PLAIN was given no username. -/
  | plainRequiresUsername
  /-- PLAIN was given no plaintext password. -/
  | plainRequiresPlaintextPassword
  /-- There was no nonce to be had. -/
  | cannotGenerateNonce
  /-- SCRAM was given no username. -/
  | scramRequiresUsername
  /-- SCRAM was given no password. -/
  | scramRequiresPassword
  /-- A challenge, or the success, came at a time when the mechanism has no use for it. -/
  | unexpectedChallenge (why : String)
  /-- A challenge does not follow the syntax. -/
  | malformedChallenge (why : String)
  /-- A challenge is no text. -/
  | cannotDecodeChallenge
  /-- The server-first message has no nonce. -/
  | noServerNonce
  /-- The server's nonce does not extend the client's. -/
  | invalidServerNonce
  /-- The server-first message has no salt. -/
  | noServerSalt
  /-- The server-first message has no iteration count. -/
  | noServerIterations
  /-- A key has a length that the digest cannot take. -/
  | invalidKeyLength
  /-- The server-final message cannot be read. -/
  | cannotDecodeSuccessResponse
  /-- The server's signature is not the one expected: the server does not know the password. -/
  | invalidSignatureInSuccessResponse
  /-- The server-final message has no signature. -/
  | noSignatureInSuccessResponse
  /-- The server reports an error of its own. -/
  | serverError (text : String)
  deriving DecidableEq

namespace MechanismError

def message : MechanismError → String
  | anonymousRequiresNoCredentials => "ANONYMOUS mechanism requires no credentials"
  | plainRequiresUsername => "PLAIN requires a username"
  | plainRequiresPlaintextPassword => "PLAIN requires a plaintext password"
  | cannotGenerateNonce => "can't generate nonce"
  | scramRequiresUsername => "SCRAM requires a username"
  | scramRequiresPassword => "SCRAM requires a password"
  | unexpectedChallenge why => "unexpected challenge: " ++ why
  | malformedChallenge why => "malformed challenge: " ++ why
  | cannotDecodeChallenge => "can't decode challenge"
  | noServerNonce => "no server nonce"
  | invalidServerNonce => "server nonce doesn't extend client nonce"
  | noServerSalt => "no server salt"
  | noServerIterations => "no server iterations"
  | invalidKeyLength => "invalid key length: Invalid Length"
  | cannotDecodeSuccessResponse => "can't decode success response"
  | invalidSignatureInSuccessResponse => "invalid signature in success response"
  | noSignatureInSuccessResponse => "no signature in success response"
  | serverError text => "server error in success response: " ++ text

/-- Whether the cause is that the server did not prove that it knows the password. -/
def isMutual : MechanismError → Bool
  | invalidSignatureInSuccessResponse | noSignatureInSuccessResponse => true
  | _ => false

end MechanismError

end XmppBosh.Sasl
