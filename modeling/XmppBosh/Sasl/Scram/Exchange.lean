import XmppBosh.Digest.Hmac
import XmppBosh.Sasl.Credentials
import XmppBosh.Sasl.Scram.ServerFirst

/-!
# SCRAM-SHA-1

The client's side of an exchange of four messages in which both sides prove that they know the
password without sending it.

* `clientFirstBare` : who logs in, and the client's nonce;
* `Keys.derive` : the keys that follow from the password, the salt and the iteration count;
* `clientFinal` : the client's proof over everything said so far, with the signature that the
  server has to show;
* `signatureOf` : the signature that a server-final message shows;
* `Scram.initial`, `Scram.response`, `Scram.success` : the exchange, phase by phase.
-/

namespace XmppBosh.Sasl

open Digest Text

namespace Scram

/-! ## Messages -/

def gs2Header : String := "n,,"

/-- A username in which a comma or an equals sign is spelled by its code. -/
def escapeUsername (username : String) : String :=
  String.ofList (username.toList.flatMap fun c =>
    if c = '=' then ['=', '3', 'D'] else if c = ',' then ['=', '2', 'C'] else [c])

/-- The client's first message without its header. -/
def clientFirstBare (username nonce : String) : String :=
  "n=" ++ escapeUsername username ++ ",r=" ++ nonce

def clientFirst (username nonce : String) : Bytes :=
  Bytes.utf8 (gs2Header ++ clientFirstBare username nonce)

structure Keys where
  client : Bytes
  server : Bytes
  stored : Bytes

/-- The keys that follow from the password and the server's choices. -/
def Keys.derive (password : String) (salt : Bytes) (iterations : Nat) : Keys :=
  let salted := pbkdf2 (Bytes.utf8 password) salt iterations
  let client := hmac salted (Bytes.utf8 "Client Key")
  { client, server := hmac salted (Bytes.utf8 "Server Key"), stored := sha1 client }

def withoutProof (nonce : String) : String :=
  "c=" ++ Base64.encode (Bytes.utf8 gs2Header) ++ ",r=" ++ nonce

/-- What both sides sign: the three messages before the proof. -/
def authMessage (clientFirstBare : String) (serverFirst : Bytes) (withoutProof : String) : Bytes :=
  Bytes.utf8 clientFirstBare ++ Bytes.utf8 "," ++ serverFirst ++ Bytes.utf8 "," ++ Bytes.utf8 withoutProof

/-- The client's final message, and the signature that the server has to show in return. -/
structure ClientFinal where
  message : Bytes
  serverSignature : Bytes

def clientFinal (username password nonce : String) (serverFirst : Bytes) :
    Except MechanismError ClientFinal := do
  let first ← ServerFirst.parse nonce serverFirst
  let keys := Keys.derive password first.salt first.iterations
  let body := withoutProof first.nonce
  let signed := authMessage (clientFirstBare username nonce) serverFirst body
  let proof := keys.client.xor (hmac keys.stored signed)
  return { message := Bytes.utf8 (body ++ ",p=" ++ Base64.encode proof)
           serverSignature := hmac keys.server signed }

/-- The last `v` of a server-final message, unless an `e` reports an error. -/
def signatureOf (attributes : List Attribute) : Except MechanismError String := do
  let last ← attributes.foldlM (fun (last : Option String) a =>
    if a.key = 'e' then .error (.serverError a.value)
    else .ok (if a.key = 'v' then some a.value else last)) none
  match last with
  | none => .error .noSignatureInSuccessResponse
  | some signature => .ok signature

def checkSignature (due : Bytes) (attributes : List Attribute) : Except MechanismError Unit := do
  match Base64.decode? (← signatureOf attributes) with
  | none => .error .cannotDecodeSuccessResponse
  | some shown => if shown = due then .ok () else .error .invalidSignatureInSuccessResponse

/-! ## The exchange -/

inductive Phase where
  /-- Nothing has been said. -/
  | created
  /-- The client's first message has been made. -/
  | started
  /-- The proof has been sent, and the server owes this signature. -/
  | proved (serverSignature : Bytes)
  /-- The server has proved that it knows the password. -/
  | verified
  /-- The exchange has failed. -/
  | failed
  deriving DecidableEq

end Scram

structure Scram where
  username : String
  password : String
  nonce : String
  phase : Scram.Phase := .created
  deriving DecidableEq

namespace Scram

/-- Whether the server has proved that it knows the password. -/
def isDone (s : Scram) : Bool := s.phase = .verified

/-- An exchange for a username and password, with the nonce that the source yields. -/
def start (username password : String) (nonce : Except MechanismError String) :
    Except MechanismError Scram :=
  nonce.map fun nonce => { username, password, nonce }

def ofCredentials (credentials : Credentials) (nonce : Except MechanismError String) :
    Except MechanismError Scram :=
  match credentials.password, credentials.username with
  | none, _ => .error .scramRequiresPassword
  | some _, none => .error .scramRequiresUsername
  | some password, some username => start username password nonce

/-- The first message; it begins the exchange anew, whatever came before. -/
def initial (s : Scram) : Scram × Bytes :=
  ({ s with phase := .started }, clientFirst s.username s.nonce)

/-- A server-final message against the signature that is due. One that is no attribute list at all
is refused and leaves the exchange waiting; every other refusal ends it. -/
def verify (s : Scram) (due message : Bytes) : Scram × Except MechanismError Unit :=
  match Frame.parse message with
  | .error _ => (s, .error .cannotDecodeSuccessResponse)
  | .ok attributes =>
    match checkSignature due attributes with
    | .ok () => ({ s with phase := .verified }, .ok ())
    | .error e => ({ s with phase := .failed }, .error e)

/-- The answer to a challenge. The server-final message may come as a challenge too; its answer is
empty. -/
def response (s : Scram) (challenge : Option Bytes) : Scram × Except MechanismError Bytes :=
  match s.phase, challenge with
  | .started, some serverFirst =>
    match clientFinal s.username s.password s.nonce serverFirst with
    | .ok final => ({ s with phase := .proved final.serverSignature }, .ok final.message)
    | .error e => ({ s with phase := .failed }, .error e)
  | .proved due, some serverFinal =>
    let (s, verdict) := s.verify due serverFinal
    (s, verdict.map fun _ => [])
  | .created, none => let (s, message) := s.initial; (s, .ok message)
  | .created, some _ => (s, .error (.unexpectedChallenge "challenge before the initial response"))
  | .verified, _ | .failed, _ =>
    (s, .error (.unexpectedChallenge "challenge after the exchange ended"))
  | .started, none | .proved _, none => (s, .error (.unexpectedChallenge "empty challenge"))

/-- The server's success. It counts only after the server has proved itself, or with the proof. -/
def success (s : Scram) (data : Option Bytes) : Scram × Except MechanismError Unit :=
  match s.phase, data with
  | .verified, none => (s, .ok ())
  | .proved due, some serverFinal => s.verify due serverFinal
  | .proved _, none => ({ s with phase := .failed }, .error .noSignatureInSuccessResponse)
  | .verified, some _ =>
    (s, .error (.unexpectedChallenge "additional data after the server was verified"))
  | _, _ => (s, .error (.unexpectedChallenge "success before the exchange completed"))

end Scram

end XmppBosh.Sasl
