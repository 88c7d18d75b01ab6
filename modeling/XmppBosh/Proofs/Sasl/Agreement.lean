import XmppBosh.Proofs.Sasl.Exchange
import XmppBosh.Proofs.Text.Decimal

/-!
# Agreement with a server

A server does not keep a password but two keys that follow from it, the salt and the iteration count. With
these it can tell whether a client knows the password, and show that it knows it itself.

* `Verifier`, `Verifier.ofPassword` : what a server keeps of a password;
* `Verifier.open?` : its answer to a client's first message; `Verifier.close?` : its answer to a proof, from
  the bytes that were exchanged;
* `unescape?_escapeUsername`, `parse_render` : what is written is read back, letter by letter;
* `parse_first`, `open?_clientFirst`, `close?_proof` : each side reads what the other one has written;
* `Agreed`, `agreed` : an exchange that ends well for both.
-/

namespace XmppBosh.Sasl.Scram

open Digest Text

/-! ## The server -/

/-- What a server keeps of a password. A proof can be checked with this but not given. -/
structure Verifier where
  storedKey : Bytes
  serverKey : Bytes
  salt : Bytes
  iterations : Nat

namespace Verifier

def ofPassword (password : String) (salt : Bytes) (iterations : Nat) : Verifier :=
  let salted := pbkdf2 (Bytes.utf8 password) salt iterations
  { storedKey := sha1 (hmac salted (Bytes.utf8 "Client Key"))
    serverKey := hmac salted (Bytes.utf8 "Server Key"), salt, iterations }

end Verifier

/-- The name that is meant: codes stand for the comma and the equals sign. -/
def unescape? : List Char → Option (List Char)
  | [] => some []
  | '=' :: '3' :: 'D' :: cs => (unescape? cs).map ('=' :: ·)
  | '=' :: '2' :: 'C' :: cs => (unescape? cs).map (',' :: ·)
  | '=' :: _ => none
  | c :: cs => (unescape? cs).map (c :: ·)

/-- What a server has heard and said before it gets the proof. -/
structure Opened where
  /-- Who logs in. -/
  username : String
  /-- The client's first message, its header aside. -/
  heard : Bytes
  /-- The nonce of both sides. -/
  nonce : String
  /-- The server's first message. -/
  said : Bytes

/-- What both sides sign, from the bytes that were exchanged. -/
def Opened.signed (o : Opened) (unproved : Bytes) : Bytes :=
  o.heard ++ Bytes.utf8 "," ++ o.said ++ Bytes.utf8 "," ++ unproved

namespace Verifier

def first (v : Verifier) (nonce : String) : Bytes :=
  Bytes.utf8 ("r=" ++ nonce ++ ",s=" ++ Base64.encode v.salt ++ ",i=" ++ toString v.iterations)

/-- The answer to a client's first message, with the server's own part of the nonce. -/
def open? (v : Verifier) (suffix : String) (message : Bytes) : Option Opened :=
  (Bytes.ofUtf8? message).bind fun text =>
    match fields ',' text.toList with
    | [['n'], [], 'n' :: '=' :: name, 'r' :: '=' :: own] =>
      let nonce := String.ofList own ++ suffix
      -- the header is three bytes long
      (unescape? name).map fun username =>
        { username := String.ofList username, heard := message.drop 3, nonce, said := v.first nonce }
    | _ => none

def accepts (v : Verifier) (signed proof : Bytes) : Bool :=
  (Bytes.xor? proof (hmac v.storedKey signed)).any fun clientKey => sha1 clientKey = v.storedKey

def close? (v : Verifier) (o : Opened) (message : Bytes) : Option Bytes :=
  (Bytes.ofUtf8? message).bind fun text =>
    match fields ',' text.toList with
    | [binding, nonce, 'p' :: '=' :: code] =>
      if binding = "c=biws".toList ∧ nonce = 'r' :: '=' :: o.nonce.toList then
        (Base64.decode? (String.ofList code)).bind fun proof =>
          let signed := o.signed (Bytes.utf8 (String.ofList (joined ',' [binding, nonce])))
          if v.accepts signed proof then
            some (Bytes.utf8 ("v=" ++ Base64.encode (hmac v.serverKey signed)))
          else none
      else none
    | _ => none

end Verifier

/-! ## Reading back -/

theorem comma_not_mem_escapeUsername (username : String) : ',' ∉ (escapeUsername username).toList := by
  simp only [escapeUsername, String.toList_ofList, List.mem_flatMap, not_exists, not_and]
  intro c _
  split
  · decide
  · split
    · decide
    · simp_all [eq_comm]

/-- **The username** is read back. -/
theorem unescape?_escapeUsername (username : String) :
    unescape? (escapeUsername username).toList = some username.toList := by
  rw [escapeUsername, String.toList_ofList]
  induction username.toList with
  | nil => rfl
  | cons c cs ih =>
    rw [List.flatMap_cons]
    by_cases heq : c = '='
    · simp [heq, unescape?, ih]
    · by_cases hcomma : c = ','
      · simp [hcomma, unescape?, ih]
      · simp [heq, hcomma, unescape?, ih]

theorem comma_not_mem_encode (bytes : Bytes) : ',' ∉ (Base64.encode bytes).toList := by
  rw [Base64.encode, String.toList_ofList]
  intro h
  exact Base64.forall_mem_encodeChars (p := (· ≠ ',')) (by decide) (by decide) bytes ',' h rfl

theorem comma_not_mem_toDigits (n : Nat) : ',' ∉ Nat.toDigits 10 n :=
  fun h => absurd (Decimal.forall_mem_toDigits n ',' h).1 (by decide)

theorem ofChars?_chars (attributes : List Attribute) :
    (attributes.map Attribute.chars).mapM Attribute.ofChars? = some attributes := by
  induction attributes with
  | nil => rfl
  | cons a rest ih =>
    have hback : Attribute.ofChars? a.chars = some a := by simp [Attribute.chars, Attribute.ofChars?]
    simp [hback, ih]

/-- **A message is read back**, if no value has a comma in it. -/
theorem parse_render {attributes : List Attribute} (hne : attributes ≠ [])
    (h : ∀ a ∈ attributes, a.key ≠ ',' ∧ ',' ∉ a.value.toList) :
    Frame.parse (Frame.render attributes) = .ok attributes := by
  have hfields : fields ',' (joined ',' (attributes.map Attribute.chars)) =
      attributes.map Attribute.chars := by
    apply fields_joined
    · simpa using hne
    · intro f hf
      obtain ⟨a, ha, rfl⟩ := List.mem_map.1 hf
      obtain ⟨hkey, hvalue⟩ := h a ha
      simp [Attribute.chars, hkey.symm, hvalue]
  have hof : Frame.ofText? (Frame.text attributes) = some attributes := by
    rw [Frame.ofText?, Frame.text, String.toList_ofList, hfields, ofChars?_chars]
  rw [Frame.parse, Frame.render, Bytes.ofUtf8?_utf8]
  simp only [hof]

/-! ## The first messages -/

variable {username password nonce suffix : String} {v : Verifier}

/-- **The server reads the client's first message.** -/
theorem open?_clientFirst (hn : ',' ∉ nonce.toList) (v : Verifier) (username suffix : String) :
    v.open? suffix (clientFirst username nonce) = some
      { username, heard := Bytes.utf8 (clientFirstBare username nonce), nonce := nonce ++ suffix
        said := v.first (nonce ++ suffix) } := by
  have htext : (gs2Header ++ clientFirstBare username nonce).toList =
      joined ',' [['n'], [], 'n' :: '=' :: (escapeUsername username).toList, 'r' :: '=' :: nonce.toList] := by
    simp [gs2Header, clientFirstBare, joined]
  have hfields : fields ',' (gs2Header ++ clientFirstBare username nonce).toList =
      [['n'], [], 'n' :: '=' :: (escapeUsername username).toList, 'r' :: '=' :: nonce.toList] := by
    rw [htext]
    apply fields_joined
    · simp
    · simp [comma_not_mem_escapeUsername, hn]
  have hheard : (clientFirst username nonce).drop 3 = Bytes.utf8 (clientFirstBare username nonce) := by
    rw [clientFirst, Bytes.utf8_append]
    rfl
  rw [Verifier.open?, hheard, clientFirst, Bytes.ofUtf8?_utf8, Option.bind_some, hfields]
  simp [unescape?_escapeUsername]

/-- The choices that the attributes of a server's first message make. -/
theorem ofAttributes_first (n : String) (salt : Bytes) {iterations : Nat} (hpos : 1 ≤ iterations)
    (hlt : iterations < UInt32.size) :
    ServerFirst.ofAttributes [⟨'r', n⟩, ⟨'s', Base64.encode salt⟩, ⟨'i', toString iterations⟩] =
      .ok ⟨n, salt, iterations⟩ := by
  have hnonce : ServerFirst.Partial.take {} ⟨'r', n⟩ = .ok { nonce := some n } := rfl
  have hsalt : ServerFirst.Partial.take { nonce := some n } ⟨'s', Base64.encode salt⟩ =
      .ok { nonce := some n, salt := some salt } := by
    simp [ServerFirst.Partial.take, Base64.decode?_encode]
  have hiterations : ServerFirst.Partial.take { nonce := some n, salt := some salt }
      ⟨'i', toString iterations⟩ =
      .ok { nonce := some n, salt := some salt, iterations := some iterations } := by
    obtain ⟨k, rfl⟩ := Nat.exists_eq_add_of_le' hpos
    have hcount := Decimal.count?_toString hlt
    simp only [ServerFirst.Partial.take, hcount]
    rfl
  simp only [ServerFirst.ofAttributes, List.foldlM_cons, hnonce, hsalt, hiterations, bind, Except.bind]
  rfl

/-- **The client reads the server's first message.** -/
theorem parse_first (hn : ',' ∉ nonce.toList) (hs : ',' ∉ suffix.toList) (hne : suffix ≠ "")
    (hpos : 1 ≤ v.iterations) (hlt : v.iterations < UInt32.size) :
    ServerFirst.parse nonce (v.first (nonce ++ suffix)) =
      .ok ⟨nonce ++ suffix, v.salt, v.iterations⟩ := by
  have hrender : v.first (nonce ++ suffix) = Frame.render
      [⟨'r', nonce ++ suffix⟩, ⟨'s', Base64.encode v.salt⟩, ⟨'i', toString v.iterations⟩] := by
    rw [Verifier.first, Frame.render, Frame.text]
    congr 1
    apply String.toList_inj.1
    simp [Attribute.chars, joined]
  have hparse : Frame.parse (v.first (nonce ++ suffix)) =
      .ok [⟨'r', nonce ++ suffix⟩, ⟨'s', Base64.encode v.salt⟩, ⟨'i', toString v.iterations⟩] := by
    rw [hrender]
    apply parse_render (by simp)
    simp [hn, hs, comma_not_mem_encode, comma_not_mem_toDigits]
  have hextends : ServerFirst.extendsNonce nonce (nonce ++ suffix) := by
    have hlength : 0 < suffix.length := by
      rw [Nat.pos_iff_ne_zero]
      simpa using hne
    simp [ServerFirst.extendsNonce, hlength]
  rw [ServerFirst.parse, hparse]
  show (ServerFirst.ofAttributes _ >>= _) = _
  rw [ofAttributes_first _ _ hpos hlt]
  exact if_pos hextends

/-! ## The proof -/

theorem xor_xor (a b : Bytes) (h : a.length = b.length) : (a.xor b).xor b = a := by
  induction a generalizing b with
  | nil => simp [Bytes.xor]
  | cons x a ih =>
    cases b with
    | nil => simp at h
    | cons y b =>
      have htail := ih b (by simpa using h)
      simp only [Bytes.xor, List.zipWith_cons_cons] at htail ⊢
      rw [htail, UInt8.xor_assoc, UInt8.xor_self, UInt8.xor_zero]

theorem xor?_hmac (key message key' message' : Bytes) :
    Bytes.xor? (hmac key message) (hmac key' message') =
      some ((hmac key message).xor (hmac key' message')) := by
  simp [Bytes.xor?]

/-- A proof is right if it is made with the key that the server's one follows from. -/
theorem accepts_xor {clientKey : Bytes} (hkey : sha1 clientKey = v.storedKey)
    (hlength : clientKey.length = 20) (signed : Bytes) :
    v.accepts signed (clientKey.xor (hmac v.storedKey signed)) := by
  have hsame : clientKey.length = (hmac v.storedKey signed).length := by rw [hlength, length_hmac]
  have hback : Bytes.xor? (clientKey.xor (hmac v.storedKey signed)) (hmac v.storedKey signed) =
      some clientKey := by
    rw [Bytes.xor?, if_pos, xor_xor _ _ hsame]
    simp [Bytes.xor, hlength]
  rw [Verifier.accepts, hback, Option.any_some, hkey, decide_eq_true rfl]

/-- **The server reads the client's proof**, and answers it since it is right. -/
theorem close?_proof {o : Opened} {proof : Bytes} (hn : ',' ∉ o.nonce.toList)
    (h : v.accepts (o.signed (Bytes.utf8 (withoutProof o.nonce))) proof) :
    v.close? o (Bytes.utf8 (withoutProof o.nonce ++ ",p=" ++ Base64.encode proof)) =
      some (serverFinal (hmac v.serverKey (o.signed (Bytes.utf8 (withoutProof o.nonce))))) := by
  have hbinding : withoutProof o.nonce =
      String.ofList (joined ',' ["c=biws".toList, 'r' :: '=' :: o.nonce.toList]) := by
    have hheader : Base64.encode (Bytes.utf8 gs2Header) = "biws" := by decide
    apply String.toList_inj.1
    simp [withoutProof, hheader, joined]
  have htext : (withoutProof o.nonce ++ ",p=" ++ Base64.encode proof).toList = joined ','
      ["c=biws".toList, 'r' :: '=' :: o.nonce.toList, 'p' :: '=' :: (Base64.encode proof).toList] := by
    simp [hbinding, joined]
  have hfields : fields ',' (withoutProof o.nonce ++ ",p=" ++ Base64.encode proof).toList =
      ["c=biws".toList, 'r' :: '=' :: o.nonce.toList, 'p' :: '=' :: (Base64.encode proof).toList] := by
    rw [htext]
    apply fields_joined
    · simp
    · simp [hn, comma_not_mem_encode]
  have hfinal (due : Bytes) : Bytes.utf8 ("v=" ++ Base64.encode due) = serverFinal due := by
    rw [serverFinal, Frame.render, Frame.text]
    congr 1
    apply String.toList_inj.1
    simp [Attribute.chars, joined]
  rw [Verifier.close?, Bytes.ofUtf8?_utf8, Option.bind_some, hfields]
  simp only [Base64.decode?_encode, Option.bind_some, String.ofList_toList, and_self, if_true, ← hbinding, h,
    hfinal]

theorem clientFinal_of_parse {serverFirst : Bytes} {choices : ServerFirst}
    (h : ServerFirst.parse nonce serverFirst = .ok choices) (username password : String) :
    let keys := Keys.derive password choices.salt choices.iterations
    let signed :=
      authMessage (clientFirstBare username nonce) serverFirst (withoutProof choices.nonce)
    clientFinal username password nonce serverFirst = .ok
      { message := Bytes.utf8 (withoutProof choices.nonce ++ ",p=" ++
          Base64.encode (keys.client.xor (hmac keys.stored signed)))
        serverSignature := hmac keys.server signed } := by
  intro keys signed
  rw [clientFinal, h]
  rfl

/-! ## Agreement -/

section Phases

variable {s : Scram} {due message : Bytes}

theorem response_of_final {final : ClientFinal} (hs : s.phase = .started)
    (h : clientFinal s.username s.password s.nonce message = .ok final) :
    s.response (some message) = ({ s with phase := .proved final.serverSignature }, .ok final.message) := by
  simp only [response, hs, h]

theorem verify_serverFinal (s : Scram) (due : Bytes) :
    s.verify due (serverFinal due) = ({ s with phase := .verified }, .ok ()) := by
  rw [verify_of_shows (shows_serverFinal due), if_pos rfl]

theorem success_serverFinal (hs : s.phase = .proved due) :
    s.success (some (serverFinal due)) = ({ s with phase := .verified }, .ok ()) := by
  simp only [success, hs, verify_serverFinal]

theorem response_serverFinal (hs : s.phase = .proved due) :
    s.response (some (serverFinal due)) = ({ s with phase := .verified }, .ok []) := by
  simp only [response, hs, verify_serverFinal]
  rfl

end Phases

/-- An exchange that ends well for both sides. The server shows that it knows the password with the success,
or with a challenge before it. -/
structure Agreed (client : Scram) (v : Verifier) (suffix : String) (opened : Opened)
    (final shown : Bytes) (waiting done : Scram) : Prop where
  opens : v.open? suffix client.initial.2 = some opened
  username : opened.username = client.username
  nonce : opened.nonce = client.nonce ++ suffix
  proves : client.initial.1.response (some opened.said) = (waiting, .ok final)
  closes : v.close? opened final = some shown
  success : waiting.success (some shown) = (done, .ok ())
  challenge : waiting.response (some shown) = (done, .ok [])
  ends : done.success none = (done, .ok ())
  done : done.isDone

/-- An exchange ends well when the server takes the client's messages and answers the proof with the
signature that the client waits for. -/
theorem agreed_of_close {client : Scram} {v : Verifier} {suffix : String} {opened : Opened}
    {message due : Bytes} (hopen : v.open? suffix client.initial.2 = some opened)
    (husername : opened.username = client.username) (hnonce : opened.nonce = client.nonce ++ suffix)
    (hfinal : clientFinal client.username client.password client.nonce opened.said = .ok ⟨message, due⟩)
    (hclose : v.close? opened message = some (serverFinal due)) :
    Agreed client v suffix opened message (serverFinal due) { client with phase := .proved due }
      { client with phase := .verified } where
  opens := hopen
  username := husername
  nonce := hnonce
  proves := response_of_final (s := client.initial.1) rfl hfinal
  closes := hclose
  success := success_serverFinal rfl
  challenge := response_serverFinal rfl
  ends := rfl
  done := rfl

/-- **A client and a server that know one password agree**, whatever the username, the password, the salt
and the iteration count are, as long as the client's nonce and the server's part of it have no comma in
them and the latter is not empty. The server reads who logs in and accepts the proof, which combines two
digests of one length; the client accepts the signature. -/
theorem agreed (username password nonce suffix : String) (salt : Bytes) (iterations : Nat)
    (hn : ',' ∉ nonce.toList) (hs : ',' ∉ suffix.toList) (hne : suffix ≠ "") (hpos : 1 ≤ iterations)
    (hlt : iterations < UInt32.size) :
    let v := Verifier.ofPassword password salt iterations
    let client : Scram := { username, password, nonce }
    ∃ opened proof shown waiting done,
      Agreed client v suffix opened
        (Bytes.utf8 (withoutProof opened.nonce ++ ",p=" ++ Base64.encode proof)) shown waiting done ∧
      opened.said = Bytes.utf8 ("r=" ++ (nonce ++ suffix) ++ ",s=" ++ Base64.encode salt ++
        ",i=" ++ toString iterations) ∧
      Bytes.xor? (Keys.derive password salt iterations).client
        (hmac v.storedKey (opened.signed (Bytes.utf8 (withoutProof opened.nonce)))) = some proof := by
  intro v client
  let opened : Opened :=
    { username, heard := Bytes.utf8 (clientFirstBare username nonce), nonce := nonce ++ suffix
      said := v.first (nonce ++ suffix) }
  let signed := opened.signed (Bytes.utf8 (withoutProof opened.nonce))
  let proof := (Keys.derive password salt iterations).client.xor (hmac v.storedKey signed)
  let final := Bytes.utf8 (withoutProof opened.nonce ++ ",p=" ++ Base64.encode proof)
  have hparse : ServerFirst.parse nonce opened.said = .ok ⟨opened.nonce, salt, iterations⟩ :=
    parse_first (v := v) hn hs hne hpos hlt
  -- Both sides derive their keys in one way, and sign the same bytes.
  have hfinal : clientFinal username password nonce opened.said = .ok ⟨final, hmac v.serverKey signed⟩ :=
    clientFinal_of_parse hparse username password
  have hcomma : ',' ∉ opened.nonce.toList := by simp [opened, hn, hs]
  have haccepts : v.accepts signed proof := accepts_xor rfl (length_hmac _ _) signed
  have hclose : v.close? opened final = some (serverFinal (hmac v.serverKey signed)) :=
    close?_proof hcomma haccepts
  have hopen : v.open? suffix client.initial.2 = some opened := open?_clientFirst hn v username suffix
  exact ⟨opened, proof, _, _, _, agreed_of_close hopen rfl rfl hfinal hclose, rfl, xor?_hmac ..⟩

/-- The exchange of a user whose password is `pencil`. -/
theorem agreed_of_pencil :
    let nonce := "fyko+d2lbbFgONRv9qkxdawL"
    let suffix := "3rfcNHYJY1ZVvWVs7j"
    let salt : Bytes := [65, 37, 194, 71, 228, 58, 177, 233, 60, 109, 255, 118]
    let v := Verifier.ofPassword "pencil" salt 4096
    let client : Scram := { username := "user", password := "pencil", nonce }
    ',' ∉ nonce.toList ∧ ',' ∉ suffix.toList ∧ suffix ≠ "" ∧
      ∃ opened proof shown waiting done,
        Agreed client v suffix opened
          (Bytes.utf8 (withoutProof opened.nonce ++ ",p=" ++ Base64.encode proof)) shown waiting done ∧
        opened.said = Bytes.utf8 ("r=" ++ (nonce ++ suffix) ++ ",s=" ++ Base64.encode salt ++
          ",i=" ++ toString 4096) ∧
        Bytes.xor? (Keys.derive "pencil" salt 4096).client
          (hmac v.storedKey (opened.signed (Bytes.utf8 (withoutProof opened.nonce)))) = some proof := by
  refine ⟨by decide, by decide, by decide, ?_⟩
  exact agreed _ _ _ _ _ 4096 (by decide) (by decide) (by decide) (by decide) (by decide)

end XmppBosh.Sasl.Scram
