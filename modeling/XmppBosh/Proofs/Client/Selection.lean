import XmppBosh.Proofs.Bosh.Stanzas
import XmppBosh.Proofs.Client.Unfolding
import XmppBosh.Proofs.Sasl.Payloads
import XmppBosh.Proofs.Text.Spelling

/-!
# Which mechanism a request begins with

A manager that is asked for an authentication begins an attempt with one of the mechanisms that the server offers,
or refuses. An offer is a list of names in any spelling and order.

* `names`, `Named` : the names in an offer as they stand, and whether a mechanism is among them;
* `Alike`, `Alike.named_iff` : offers that differ only in order, repetitions, spelling and unknown names have the
  same mechanisms among them;
* `Selects`, `select_eq_iff` : the mechanism for an account, or why there is none; `select_of_alike` : it is the same
  for offers that are alike;
* `AsksFor`, `Handed` : a stanza that asks for an authentication, and what becomes of a stanza that is handed to a
  link;
* `begun_or_untouched` : a request that is refused changes nothing, and any other one begins an attempt with the
  best mechanism there is for the account, and hands one stanza to the link.
-/

namespace XmppBosh.Sasl.Negotiation

open Xml

/-! ## Offers -/

def names (mechanisms : Element) : List String :=
  (mechanisms.elements.filter fun e => e.name = "mechanism").map Element.text

/-- A mechanism is among some names: one of them is its name, but for blanks around it and small letters. -/
def Named (mechanism : String) (names : List String) : Prop :=
  ∃ name ∈ names, Text.upper (Text.trim name) = mechanism

/-- The mechanisms that an account with a password can use. -/
def known : List String := ["SCRAM-SHA-1", "PLAIN"]

/-- Two lists of names that differ only in order, repetitions, small letters, blanks around the names, and names of
mechanisms that are not known. -/
inductive Alike : List String → List String → Prop
  | refl (names : List String) : Alike names names
  | symm {names names' : List String} : Alike names names' → Alike names' names
  | trans {names names' names'' : List String} : Alike names names' → Alike names' names'' → Alike names names''
  | order {names names' : List String} : names.Perm names' → Alike names names'
  | repetition {name : String} {names : List String} : name ∈ names → Alike names (name :: names)
  | letters {name name' : String} (names : List String) : Text.SameLetters name name' →
      Alike (name :: names) (name' :: names)
  | blanks {before after : List Char} (name : String) (names : List String) : (∀ c ∈ before, Text.isBlank c) →
      (∀ c ∈ after, Text.isBlank c) →
      Alike (name :: names) (String.ofList (before ++ name.toList ++ after) :: names)
  | unknown {name : String} (names : List String) : Text.upper (Text.trim name) ∉ known →
      Alike names (name :: names)

variable {mechanism : String} {xs ys : List String}

theorem mem_offered_iff {mechanisms : Element} :
    mechanism ∈ offered mechanisms ↔ Named mechanism (names mechanisms) := by
  simp [offered, names, Named]

theorem named_cons {name : String} : Named mechanism (name :: xs) ↔
    Text.upper (Text.trim name) = mechanism ∨ Named mechanism xs := by
  simp [Named]

/-- **Offers that are alike** have the same mechanisms among them. -/
theorem Alike.named_iff (h : Alike xs ys) (hknown : mechanism ∈ known) :
    Named mechanism xs ↔ Named mechanism ys := by
  induction h with
  | refl => rfl
  | symm _ ih => exact ih.symm
  | trans _ _ ih ih' => exact ih.trans ih'
  | order hperm => simp only [Named, hperm.mem_iff]
  | repetition hmem =>
    rw [named_cons]
    exact ⟨.inr, fun h => h.elim (fun hname => ⟨_, hmem, hname⟩) id⟩
  | letters names hletters => rw [named_cons, named_cons, Text.upper_trim_of_sameLetters hletters]
  | blanks name names hbefore hafter => rw [named_cons, named_cons, Text.trim_pad hbefore hafter]
  | unknown names hunknown =>
    rw [named_cons]
    refine ⟨.inr, fun h => h.resolve_left ?_⟩
    rintro rfl
    exact hunknown hknown

/-! ## Mechanisms -/

inductive Selects (account : Account) (names : List String) (nonce : Except MechanismError String) :
    Except AuthError Mechanism → Prop
  | anonymous (absent : account.password = none) : Selects account names nonce (.ok .anonymous)
  /-- The password cannot be decoded. -/
  | undecodable {e : AuthError} (given : account.password ≠ none) (secret : account.secret = .error e) :
      Selects account names nonce (.error e)
  | scram {password own : String} (given : account.password ≠ none) (secret : account.secret = .ok password)
      (named : Named "SCRAM-SHA-1" names) (nonce_eq : nonce = .ok own) :
      Selects account names nonce (.ok (.scram
        { username := account.jid.node.getD "", password, nonce := own }))
  /-- There is no nonce to be had. -/
  | exhausted {password : String} {cause : MechanismError} (given : account.password ≠ none)
      (secret : account.secret = .ok password) (named : Named "SCRAM-SHA-1" names) (nonce_eq : nonce = .error cause) :
      Selects account names nonce (.error (.ofMechanism cause))
  | plain {password : String} (given : account.password ≠ none) (secret : account.secret = .ok password)
      (unnamed : ¬ Named "SCRAM-SHA-1" names) (named : Named "PLAIN" names) :
      Selects account names nonce (.ok (.plain
        ⟨some account.jid.bareText, account.jid.node.getD "", password⟩))
  /-- No mechanism is known. -/
  | nothing {password : String} (given : account.password ≠ none) (secret : account.secret = .ok password)
      (unnamed : ¬ Named "SCRAM-SHA-1" names) (unnamed' : ¬ Named "PLAIN" names) :
      Selects account names nonce (.error .noMechanism)

variable {account : Account} {mechanisms mechanisms' : Element} {nonce : Except MechanismError String}

theorem select_of_absent (absent : account.password = none) :
    select account mechanisms nonce = .ok .anonymous := by
  simp [select, Account.isAnonymous, absent]

theorem select_of_undecodable {e : AuthError} (given : account.password ≠ none) (secret : account.secret = .error e) :
    select account mechanisms nonce = .error e := by
  simp [select, Account.isAnonymous, given, secret, bind, Except.bind]

theorem select_of_secret {password : String} (given : account.password ≠ none)
    (secret : account.secret = .ok password) : select account mechanisms nonce =
      if "SCRAM-SHA-1" ∈ offered mechanisms then
        match Scram.start (account.jid.node.getD "") password nonce with
        | .ok s => .ok (.scram s)
        | .error e => .error (.ofMechanism e)
      else if "PLAIN" ∈ offered mechanisms then
        .ok (.plain ⟨some account.jid.bareText, account.jid.node.getD "", password⟩)
      else .error .noMechanism := by
  have hgiven : ¬ account.isAnonymous := by simpa [Account.isAnonymous] using given
  rw [select, if_neg hgiven, secret]
  rfl

/-- **What is selected** is just this. -/
theorem select_eq_iff {selected : Except AuthError Mechanism} : select account mechanisms nonce = selected ↔
    Selects account (names mechanisms) nonce selected := by
  constructor
  · rintro rfl
    by_cases hgiven : account.password = none
    · rw [select_of_absent hgiven]
      exact .anonymous hgiven
    · cases hsecret : account.secret with
      | error e =>
        rw [select_of_undecodable hgiven hsecret]
        exact .undecodable hgiven hsecret
      | ok password =>
        rw [select_of_secret hgiven hsecret]
        split
        · next hscram =>
          cases nonce with
          | ok own => exact .scram hgiven hsecret (mem_offered_iff.1 hscram) rfl
          | error cause => exact .exhausted hgiven hsecret (mem_offered_iff.1 hscram) rfl
        · next hscram =>
          have hscram := mt mem_offered_iff.2 hscram
          split
          · next hplain => exact .plain hgiven hsecret hscram (mem_offered_iff.1 hplain)
          · next hplain => exact .nothing hgiven hsecret hscram (mt mem_offered_iff.2 hplain)
  · intro h
    cases h with
    | anonymous absent => exact select_of_absent absent
    | undecodable given secret => exact select_of_undecodable given secret
    | scram given secret named nonce_eq | exhausted given secret named nonce_eq =>
      rw [select_of_secret given secret, if_pos (mem_offered_iff.2 named), nonce_eq]
      rfl
    | plain given secret unnamed named =>
      rw [select_of_secret given secret, if_neg (mt mem_offered_iff.1 unnamed), if_pos (mem_offered_iff.2 named)]
    | nothing given secret unnamed unnamed' =>
      rw [select_of_secret given secret, if_neg (mt mem_offered_iff.1 unnamed),
        if_neg (mt mem_offered_iff.1 unnamed')]

/-- **Offers that are alike** make no difference. -/
theorem select_of_alike (h : Alike (names mechanisms) (names mechanisms')) (account : Account)
    (nonce : Except MechanismError String) :
    select account mechanisms' nonce = select account mechanisms nonce := by
  have hscram : "SCRAM-SHA-1" ∈ offered mechanisms' ↔ "SCRAM-SHA-1" ∈ offered mechanisms := by
    rw [mem_offered_iff, mem_offered_iff, h.named_iff (by decide)]
  have hplain : "PLAIN" ∈ offered mechanisms' ↔ "PLAIN" ∈ offered mechanisms := by
    rw [mem_offered_iff, mem_offered_iff, h.named_iff (by decide)]
  simp only [select, hscram, hplain]

theorem Selects.name {names : List String} {mechanism : Mechanism}
    (h : Selects account names nonce (.ok mechanism)) :
    (mechanism.name = "ANONYMOUS" ↔ account.password = none) ∧
      (mechanism.name = "SCRAM-SHA-1" ↔ account.password ≠ none ∧ Named "SCRAM-SHA-1" names) ∧
      (mechanism.name = "PLAIN" ↔
        account.password ≠ none ∧ ¬ Named "SCRAM-SHA-1" names ∧ Named "PLAIN" names) := by
  cases h with
  | anonymous absent => simp [Mechanism.name, absent]
  | scram given secret named => simp [Mechanism.name, given, named]
  | plain given secret unnamed named => simp [Mechanism.name, given, unnamed, named]

/-- Why nothing is selected: the password cannot be decoded, there is no nonce for SCRAM-SHA-1, or no known mechanism
is offered. -/
theorem selects_error_iff {names : List String} {e : AuthError} : Selects account names nonce (.error e) ↔
    account.password ≠ none ∧ (account.secret = .error e ∨ (∃ password, account.secret = .ok password) ∧
      (Named "SCRAM-SHA-1" names ∧ (∃ cause, nonce = .error cause ∧ e = .ofMechanism cause) ∨
        ¬ Named "SCRAM-SHA-1" names ∧ ¬ Named "PLAIN" names ∧ e = .noMechanism)) := by
  constructor
  · intro h
    cases h with
    | undecodable given secret => exact ⟨given, .inl secret⟩
    | exhausted given secret named nonce_eq =>
      exact ⟨given, .inr ⟨⟨_, secret⟩, .inl ⟨named, _, nonce_eq, rfl⟩⟩⟩
    | nothing given secret unnamed unnamed' =>
      exact ⟨given, .inr ⟨⟨_, secret⟩, .inr ⟨unnamed, unnamed', rfl⟩⟩⟩
  · rintro ⟨given, secret | ⟨⟨password, secret⟩, ⟨named, cause, nonce_eq, rfl⟩ | ⟨unnamed, unnamed', rfl⟩⟩⟩
    · exact .undecodable given secret
    · exact .exhausted given secret named nonce_eq
    · exact .nothing given secret unnamed unnamed'

/-! ## What is sent -/

/-- A stanza asks for an authentication with a mechanism. There is nothing inside of it but the first message. -/
structure AsksFor (mechanism : Mechanism) (stanza : Element) : Prop where
  name : stanza.name = "auth"
  ns : stanza.ns = "urn:ietf:params:xml:ns:xmpp-sasl"
  attributes : stanza.tag.attributes = [("mechanism", mechanism.name)]
  elements : stanza.elements = []
  text : stanza.text = Payload.written (some mechanism.initial.2)
  payload : Payload.decode stanza.text = .ok (some mechanism.initial.2)

theorem asksFor_authStanza (mechanism : Mechanism) :
    AsksFor mechanism (authStanza mechanism.name mechanism.initial.2) := by
  have htext : (authStanza mechanism.name mechanism.initial.2).text = Payload.written (some mechanism.initial.2) := by
    rw [authStanza, Element.make, Element.text, ← Payload.written]
    dsimp only
    split
    · next hempty => exact hempty.symm
    · exact String.empty_append
  refine ⟨rfl, rfl, rfl, ?_, htext, htext ▸ Payload.decode_written _⟩
  rw [authStanza, Element.make, Element.elements]
  dsimp only
  split <;> rfl

end XmppBosh.Sasl.Negotiation

namespace XmppBosh.Client.World

open Sasl Sasl.Negotiation

variable {w : World} {id link : Nat} {m : Manager}

/-- A stanza has been handed to a link. If there is a session on it, then the stanza is pending, after those that were,
or has gone out with them in one request. A bare link keeps nothing. -/
structure Handed (link : Nat) (stanza : Xml.Element) (w w' : World) : Prop where
  session : ∀ s, w.session? link = some s → ∃ o, o = s.step w.now (.send stanza) ∧
    Bosh.Carried (s.queued ++ [stanza]) o ∧ w'.session? link = some o.session ∧
    w'.exchanges = w.exchanges ++ o.posts.map (fun r => { link, text := r.text }) ∧
    w'.log = w.log ++ posted w.exchanges.length o.posts
  bare : w.session? link = none → w' = w
  others : ∀ other, other ≠ link → w'.session? other = w.session? other
  registry : ∀ hub, w'.registry hub = w.registry hub
  rest : ∃ links exchanges queue log, w' = { w with links, exchanges, queue, log }

theorem handed_stepSession (act : Act) (link : Nat) (stanza : Xml.Element) (w : World) :
    Handed link stanza w (w.stepSession act link (.send stanza)) := by
  cases hs : w.session? link with
  | none =>
    have hsame : w.stepSession act link (.send stanza) = w := by simp only [stepSession, hs]
    rw [hsame]
    exact ⟨fun s h => by simp [hs] at h, fun _ => rfl, fun _ _ => rfl, fun _ => rfl, _, _, _, _, rfl⟩
  | some s =>
    have hcarried : Bosh.Carried (s.queued ++ [stanza]) (s.step w.now (.send stanza)) := by
      have hflush := Bosh.Carried.flush w.now (s.edit (Bosh.Body.push stanza))
      rwa [Bosh.Session.queued_edit, Bosh.Body.stanzas_push, Bosh.Session.stanzas_draft] at hflush
    have hnone : (s.step w.now (.send stanza)).notices = [] := Bosh.Session.notices_flush ..
    have hstep : w.stepSession act link (.send stanza) = w.follow link (s.step w.now (.send stanza)) := by
      rw [stepSession_of_session act hs]
      simp only [hnone, List.foldl_nil]
      rfl
    obtain ⟨queue, hfollow⟩ := follow_eq link (s.step w.now (.send stanza)) w
    have hsession := session?_follow hs (s.step w.now (.send stanza))
    have hregistry := registry_follow link (s.step w.now (.send stanza))
    rw [hstep]
    refine ⟨fun s' hs' => ?_, fun h => by simp [hs] at h, fun other hne => ?_, fun hub => hregistry hub w, ?_⟩
    · obtain rfl := Option.some.inj (hs.symm.trans hs')
      refine ⟨_, rfl, hcarried, ?_, ?_, ?_⟩
      · rw [hsession, if_pos rfl]
      · rw [hfollow]
      · rw [hfollow]
    · rw [hsession, if_neg hne]
    · rw [hfollow]
      exact ⟨_, _, _, _, rfl⟩

theorem authorize_eq (hm : w.managers[id]? = some m) (act : Act) (account : Account) (mechanisms : Xml.Element) :
    w.authorize act id account mechanisms =
      match select account mechanisms m.nonce with
      | .error e => (w, .error e)
      | .ok mechanism =>
        ((w.modifyManager id fun m => { m with attempt := some ⟨mechanism.initial.1, account.jid⟩ }).sendOn act m.link
          (authStanza mechanism.name mechanism.initial.2), .ok ()) := by
  simp only [authorize, hm, request]
  cases select account mechanisms m.nonce <;> rfl

/-- **Which mechanism a request begins with.** A request is refused exactly if the password cannot be decoded, there
is no nonce for SCRAM-SHA-1, or no known mechanism is offered, and then it changes nothing. Any other request begins an
attempt, hands one stanza to the link, and tells those who listen to what is sent of that stanza and of nothing else.
The stanza asks for the mechanism of the attempt. Its mechanism is ANONYMOUS exactly if there is no password, else
SCRAM-SHA-1 if that is offered, and PLAIN only if it is not. In which order, how often and how the names are spelled
makes no difference, nor do names that are not known. -/
theorem begun_or_untouched (hm : w.managers[id]? = some m) (act : Act) (account : Account)
    (mechanisms : Xml.Element) :
    (∀ e, (w.authorize act id account mechanisms).2 = .error e ↔
      account.password ≠ none ∧ (account.secret = .error e ∨ (∃ password, account.secret = .ok password) ∧
        (Named "SCRAM-SHA-1" (names mechanisms) ∧ (∃ cause, m.nonce = .error cause ∧ e = .ofMechanism cause) ∨
          ¬ Named "SCRAM-SHA-1" (names mechanisms) ∧ ¬ Named "PLAIN" (names mechanisms) ∧ e = .noMechanism))) ∧
    (∀ e, (w.authorize act id account mechanisms).2 = .error e → (w.authorize act id account mechanisms).1 = w) ∧
    ((w.authorize act id account mechanisms).2 = .ok () → ∃ mechanism : Mechanism,
      Selects account (names mechanisms) m.nonce (.ok mechanism) ∧
      (∃ stanza w₁, AsksFor mechanism stanza ∧
        Handed m.link stanza
          (w.modifyManager id fun m => { m with attempt := some ⟨mechanism.initial.1, account.jid⟩ }) w₁ ∧
        (w.authorize act id account mechanisms).1 = w₁.tell act (.link m.link .sent) (.stanza stanza) ∧
        ∀ depth, act = performWithin depth → ∃ ds,
          Announces (.link m.link .sent) [.stanza stanza] w₁ ds (w.authorize act id account mechanisms).1) ∧
      (mechanism.name = "ANONYMOUS" ↔ account.password = none) ∧
      (mechanism.name = "SCRAM-SHA-1" ↔ account.password ≠ none ∧ Named "SCRAM-SHA-1" (names mechanisms)) ∧
      (mechanism.name = "PLAIN" ↔ account.password ≠ none ∧
        ¬ Named "SCRAM-SHA-1" (names mechanisms) ∧ Named "PLAIN" (names mechanisms))) ∧
    ∀ mechanisms', Alike (names mechanisms) (names mechanisms') →
      w.authorize act id account mechanisms' = w.authorize act id account mechanisms := by
  refine ⟨fun e => ?_, fun e he => ?_, fun hok => ?_, fun mechanisms' halike => ?_⟩
  · rw [← selects_error_iff, ← select_eq_iff, authorize_eq hm]
    cases select account mechanisms m.nonce <;> simp
  · rw [authorize_eq hm] at he ⊢
    cases hselected : select account mechanisms m.nonce with
    | error cause => rfl
    | ok mechanism =>
      rw [hselected] at he
      cases he
  · rw [authorize_eq hm] at hok ⊢
    cases hselected : select account mechanisms m.nonce with
    | error cause =>
      rw [hselected] at hok
      cases hok
    | ok mechanism =>
      have hchosen := select_eq_iff.1 hselected
      refine ⟨mechanism, hchosen, ⟨_, _, asksFor_authStanza mechanism, handed_stepSession act m.link _ _, rfl, ?_⟩,
        hchosen.name⟩
      rintro depth rfl
      obtain ⟨-, ds, hannounced, -⟩ := informs_tell (moves_performWithin depth) (.link m.link .sent) _ _
        fun _ _ _ _ => trivial
      exact ⟨ds, hannounced⟩
  · rw [authorize_eq hm, authorize_eq hm, select_of_alike halike]

def managed (s : Bosh.Session) (nonce : Except MechanismError String) : World :=
  let w := (({ starts := fun _ => 0, nonce := "n" } : World).newLink s).adoptManager 0
  w.modifyManager 0 fun m => { m with nonce }

/-- However the names are spelled, a manager that has no nonce does not fall back to PLAIN. One that has a nonce asks
for SCRAM-SHA-1, in a request of its own on an idle session. -/
theorem untouched_or_posted :
    let account : Account := { jid := { node := some "u", domain := "d" }, password := some "p" }
    let offer : Xml.Element :=
      (Offer.names ["PLAIN", " Scram-Sha-1\n", "X"]).element?.getD { tag := { name := "", ns := "" } }
    let s : Bosh.Session :=
      { settings := some { httpBase := "http://localhost/", hostName := "localhost" }
        stream := some { rid := 1, sid := some "s" }
        active := true }
    let exhausted := managed s (.error .cannotGenerateNonce)
    let w := managed s (.ok "n")
    exhausted.authorize exhausted.act 0 account offer = (exhausted, .error (.mechanism .cannotGenerateNonce)) ∧
    ∃ (stanza : Xml.Element) (body : Bosh.Body) (w₁ : World),
      stanza.name = "auth" ∧ stanza.tag.attributes = [("mechanism", "SCRAM-SHA-1")] ∧
      Payload.decode stanza.text = .ok (some (Bytes.utf8 "n,,n=u,r=n")) ∧
      body.stanzas = [stanza] ∧ w₁.exchanges = [{ link := 0, text := body.text }] ∧
      w.authorize w.act 0 account offer = (w₁.tell w.act (.link 0 .sent) (.stanza stanza), .ok ()) := by
  intro account offer s exhausted w
  have hnamed : Named "SCRAM-SHA-1" (names offer) := mem_offered_iff.1 (by decide +kernel)
  constructor
  · have hm : exhausted.managers[0]? =
        some { link := 0, nonce := .error .cannotGenerateNonce, results := recorded } := rfl
    obtain ⟨hrefused, huntouched, -⟩ := begun_or_untouched hm exhausted.act account offer
    have herror := (hrefused (.mechanism .cannotGenerateNonce)).2
      ⟨nofun, .inr ⟨⟨"p", rfl⟩, .inl ⟨hnamed, .cannotGenerateNonce, rfl, rfl⟩⟩⟩
    exact Prod.ext (huntouched _ herror) herror
  · have hm : w.managers[0]? = some { link := 0, nonce := .ok "n", results := recorded } := rfl
    obtain ⟨hrefused, -, hbegun, -⟩ := begun_or_untouched hm w.act account offer
    have hok : (w.authorize w.act 0 account offer).2 = .ok () := by
      cases hresult : (w.authorize w.act 0 account offer).2 with
      | ok => rfl
      | error e =>
        obtain ⟨-, hsecret | ⟨-, ⟨-, cause, hnonce, -⟩ | ⟨hunnamed, -⟩⟩⟩ := (hrefused e).1 hresult
        · cases hsecret
        · cases hnonce
        · exact absurd hnamed hunnamed
    obtain ⟨mechanism, hchosen, ⟨stanza, w₁, hasks, hhanded, hauthorized, -⟩, -, hscram, -⟩ := hbegun hok
    have hname := hscram.2 ⟨nofun, hnamed⟩
    have hinitial : mechanism.initial.2 = Bytes.utf8 "n,,n=u,r=n" := by
      cases hchosen with
      | anonymous absent => cases absent
      | plain _ _ unnamed => exact absurd hnamed unnamed
      | scram _ secret _ nonce_eq =>
        cases secret
        cases nonce_eq
        decide +kernel
    obtain ⟨o, rfl, hcarried, -, hexchanges, -⟩ := hhanded.session s rfl
    cases hcarried with
    | pending posts _ => cases posts
    | posted request body posts text stanzas _ =>
      rw [posts] at hexchanges
      refine ⟨stanza, body, w₁, hasks.name, ?_, ?_, stanzas, ?_, Prod.ext hauthorized hok⟩
      · rw [hasks.attributes, hname]
      · rw [hasks.payload, hinitial]
      · rw [hexchanges, ← text]
        rfl

end XmppBosh.Client.World
