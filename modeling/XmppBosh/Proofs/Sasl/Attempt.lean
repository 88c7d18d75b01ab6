import XmppBosh.Proofs.Sasl.Exchange
import XmppBosh.Sasl.Negotiation

/-!
# No login without the server's proof

A client begins attempts and receives stanzas in any order. An attempt with SCRAM succeeds only when
the server has proved in that attempt that it knows the password.

* `Operation`, `Negotiation.operate`, `attemptAfter` : what may happen, what it does, and the attempt that
  is under way after it;
* `Operation.call?` : what a stanza asks of the exchange under way;
* `Underway`, `underway` : the exchange under way is the one that was begun last, after the stanzas since;
* `receive_offers`, `receive_shows`, `receive_unproven` : what a server can say to it;
* `proof_of_success` : the proof behind every success.
-/

namespace XmppBosh.Sasl

open Xml Scram

/-- What may happen to a client that authenticates. -/
inductive Operation where
  /-- An attempt is asked for. -/
  | request (account : Account) (mechanisms : Element) (nonce : Except MechanismError String)
  /-- A stanza comes in. -/
  | receive (stanza : Element)

def Operation.call? : Operation → Option Call
  | .request .. => none
  | .receive stanza =>
    if stanza.ns ≠ Namespace.sasl then none
    else match Payload.decode stanza.text with
      | .error _ => none
      | .ok payload =>
        if stanza.name = "challenge" then some (.response payload)
        else if stanza.name = "success" then some (.success payload)
        else none

theorem Operation.call?_ne_initial (o : Operation) : o.call? ≠ some .initial := by
  intro h
  cases o with
  | request => cases h
  | receive stanza =>
    unfold call? at h
    repeat' split at h
    all_goals cases h

namespace Operation

variable {stanza : Element} {payload : Option Bytes}

theorem call?_challenge (hns : stanza.ns = Namespace.sasl) (hname : stanza.name = "challenge")
    (hdecode : Payload.decode stanza.text = .ok payload) :
    (receive stanza).call? = some (.response payload) := by
  simp [call?, hns, hname, hdecode]

theorem call?_success (hns : stanza.ns = Namespace.sasl) (hname : stanza.name = "success")
    (hdecode : Payload.decode stanza.text = .ok payload) :
    (receive stanza).call? = some (.success payload) := by
  simp [call?, hns, hname, hdecode]

theorem call?_other (h : stanza.ns = Namespace.sasl → stanza.name ≠ "challenge" ∧ stanza.name ≠ "success") :
    (receive stanza).call? = none := by
  by_cases hns : stanza.ns = Namespace.sasl
  · obtain ⟨hchallenge, hsuccess⟩ := h hns
    cases hdecode : Payload.decode stanza.text <;> simp [call?, hns, hchallenge, hsuccess, hdecode]
  · simp [call?, hns]

end Operation

theorem Mechanism.response_scram {m : Mechanism} {s : Scram} {payload : Option Bytes} {answer : Bytes}
    (h : m.response payload = (.scram s, .ok answer)) :
    ∃ s₀, m = .scram s₀ ∧ s = s₀.call (.response payload) ∧ s.phase ≠ .failed := by
  cases m with
  | anonymous => cases h
  | plain p => cases h
  | scram s₀ =>
    obtain ⟨hscram, hanswer⟩ := Prod.mk.inj h
    obtain rfl := Mechanism.scram.inj hscram
    exact ⟨s₀, rfl, rfl, response_ok hanswer⟩

namespace Negotiation

def operate (o : Operation) (attempt : Option Attempt) : Reaction :=
  match o with
  | .request account mechanisms nonce =>
    match request account mechanisms nonce with
    | .ok (started, stanza) => { attempt := some started, reply := some stanza }
    | .error _ => { attempt }
  | .receive stanza => receive attempt stanza

def attemptAfter (ops : List Operation) : Option Attempt :=
  ops.foldl (fun attempt o => (operate o attempt).attempt) none

def begins : Operation → Bool
  | .request account mechanisms nonce => (request account mechanisms nonce).toBool
  | .receive _ => false

variable {account : Account} {mechanisms auth stanza : Element} {nonce : Except MechanismError String}
  {started attempt : Attempt} {s : Scram} {ops : List Operation} {o : Operation}

theorem attemptAfter_concat (ops : List Operation) (o : Operation) :
    attemptAfter (ops ++ [o]) = (operate o (attemptAfter ops)).attempt := by
  simp [attemptAfter]

/-! ## Beginning -/

theorem request_scram (h : request account mechanisms nonce = .ok (started, auth))
    (hs : started.mechanism = .scram s) :
    started.jid = account.jid ∧ ∃ password own, account.secret = .ok password ∧ nonce = .ok own ∧
      s = { username := account.jid.node.getD "", password, nonce := own, phase := .started } := by
  obtain ⟨mechanism, hselect, hbegun⟩ := bind_ok h
  cases hbegun
  refine ⟨rfl, ?_⟩
  unfold select at hselect
  split at hselect
  · cases hselect
    cases hs
  · obtain ⟨password, hpassword, hchosen⟩ := bind_ok hselect
    split at hchosen
    · cases nonce with
      | error e => cases hchosen
      | ok own =>
        cases hchosen
        cases hs
        exact ⟨password, own, hpassword, rfl, rfl⟩
    · split at hchosen
      · cases hchosen
        cases hs
      · cases hchosen

/-! ## Stanzas -/

theorem attempt_success (current : Attempt) (text : String) : (success current text).attempt = none := by
  unfold success
  split
  · rfl
  · split <;> rfl

theorem challenge_scram {current a : Attempt} {text : String}
    (h : (challenge current text).attempt = some a) (hs : a.mechanism = .scram s) :
    ∃ s₀ payload, current.mechanism = .scram s₀ ∧ a.jid = current.jid ∧
      Payload.decode text = .ok payload ∧ s = s₀.call (.response payload) ∧ s.phase ≠ .failed := by
  unfold challenge at h
  split at h
  · cases h
  · next payload hdecode =>
    split at h
    · cases h
    · next mechanism answer hresponse =>
      cases h
      obtain rfl : mechanism = .scram s := hs
      obtain ⟨s₀, hmechanism, hcall, hgoing⟩ := Mechanism.response_scram hresponse
      exact ⟨s₀, payload, hmechanism, rfl, hdecode, hcall, hgoing⟩

/-- An attempt with SCRAM has gone on with a stanza, which is no success that counts. -/
def Continues (stanza : Element) (under : Option Attempt) (a : Attempt) (s : Scram) : Prop :=
  ∃ current s₀, under = some current ∧ current.mechanism = .scram s₀ ∧ a.jid = current.jid ∧
    s = ((Operation.receive stanza).call?).elim s₀ s₀.call ∧ (s = s₀ ∨ s.phase ≠ .failed) ∧
    ∀ data, (Operation.receive stanza).call? ≠ some (.success data)

theorem continues_of_other {a : Attempt} (hs : a.mechanism = .scram s)
    (h : stanza.ns = Namespace.sasl → stanza.name ≠ "challenge" ∧ stanza.name ≠ "success") :
    Continues stanza (some a) a s := by
  rw [Continues, Operation.call?_other h]
  exact ⟨a, s, rfl, hs, rfl, rfl, .inl rfl, nofun⟩

/-- Only a challenge that is answered takes an attempt further; a success or a failure ends it. -/
theorem receive_scram {under : Option Attempt} {a : Attempt}
    (h : (receive under stanza).attempt = some a) (hs : a.mechanism = .scram s) :
    Continues stanza under a s := by
  unfold receive at h
  split at h
  · next hns =>
    obtain rfl : under = some a := h
    exact continues_of_other hs fun hsasl => absurd hsasl hns
  · next hns =>
    split at h
    · cases h
    · cases under with
      | none => cases h
      | some current =>
        simp only at h
        split at h
        · next hname =>
          obtain ⟨s₀, payload, hmechanism, hjid, hdecode, hcall, hgoing⟩ := challenge_scram h hs
          rw [Continues, Operation.call?_challenge (not_not.1 hns) hname hdecode]
          exact ⟨current, s₀, rfl, hmechanism, hjid, hcall, .inr hgoing, nofun⟩
        · next hchallenge =>
          split at h
          · rw [attempt_success] at h
            cases h
          · next hsuccess =>
            obtain rfl : current = a := Option.some.inj h
            exact continues_of_other hs fun _ => ⟨hchallenge, hsuccess⟩

/-! ## The attempt under way -/

def exchange (account : Account) (password own : String) : Scram :=
  { username := account.jid.node.getD "", password, nonce := own, phase := .started }

/-- The latest attempt was begun for an account, with its password and this nonce, and these are the
operations since. -/
def Latest (ops : List Operation) (account : Account) (password own : String)
    (during : List Operation) : Prop :=
  ∃ before mechanisms, ops = before ++ .request account mechanisms (.ok own) :: during ∧
    begins (.request account mechanisms (.ok own)) ∧ account.secret = .ok password ∧
    ∀ o ∈ during, ¬ begins o

/-- An attempt with SCRAM that is under way, and how it came about. -/
structure Underway (ops : List Operation) (a : Attempt) (s : Scram) (account : Account)
    (password own : String) (during : List Operation) : Prop where
  latest : Latest ops account password own during
  jid : a.jid = account.jid
  followed : s = (exchange account password own).follow Operation.call? during
  going : s.phase ≠ .failed
  /-- A success ends an attempt, so that there has been none. -/
  unanswered : ∀ o ∈ during, ∀ data, o.call? ≠ some (.success data)

theorem Latest.concat {password own : String} {during : List Operation}
    (h : Latest ops account password own during) (ho : ¬ begins o) :
    Latest (ops ++ [o]) account password own (during ++ [o]) := by
  obtain ⟨before, mechanisms, rfl, hbegins, hsecret, hduring⟩ := h
  refine ⟨before, mechanisms, by simp, hbegins, hsecret, ?_⟩
  rw [List.forall_mem_append, List.forall_mem_singleton]
  exact ⟨hduring, ho⟩

theorem Underway.concat {a a' : Attempt} {s' : Scram} {password own : String} {during : List Operation}
    (h : Underway ops a s account password own during) (ho : ¬ begins o) (hjid : a'.jid = a.jid)
    (hs' : s' = o.call?.elim s s.call) (hgoing : s' = s ∨ s'.phase ≠ .failed)
    (hanswer : ∀ data, o.call? ≠ some (.success data)) :
    Underway (ops ++ [o]) a' s' account password own (during ++ [o]) where
  latest := h.latest.concat ho
  jid := hjid.trans h.jid
  followed := by rw [hs', follow_concat, ← h.followed]
  going := by
    rcases hgoing with rfl | hgoing
    · exact h.going
    · exact hgoing
  unanswered := by
    rw [List.forall_mem_append, List.forall_mem_singleton]
    exact ⟨h.unanswered, hanswer⟩

/-- **The attempt under way** with SCRAM is the latest, and its exchange has followed the stanzas since. -/
theorem underway {a : Attempt} (h : attemptAfter ops = some a) (hs : a.mechanism = .scram s) :
    ∃ account password own during, Underway ops a s account password own during := by
  -- The last operation began the attempt, or it took one further that was under way before.
  induction ops using List.reverseRecOn generalizing a s with
  | nil => cases h
  | append_singleton ops o ih =>
    rw [attemptAfter_concat] at h
    cases o with
    | request account mechanisms nonce =>
      cases hrequest : request account mechanisms nonce with
      | ok begun =>
        obtain ⟨started, auth⟩ := begun
        simp only [operate, hrequest] at h
        cases h
        obtain ⟨hjid, password, own, hsecret, rfl, rfl⟩ := request_scram hrequest hs
        have hbegins : begins (.request account mechanisms (.ok own)) := by
          simp [begins, hrequest, Except.toBool]
        exact ⟨account, password, own, [],
          { latest := ⟨ops, mechanisms, rfl, hbegins, hsecret, List.forall_mem_nil _⟩
            jid := hjid
            followed := rfl
            going := Phase.noConfusion
            unanswered := List.forall_mem_nil _ }⟩
      | error e =>
        simp only [operate, hrequest] at h
        obtain ⟨account', password, own, during, hunder⟩ := ih h hs
        have hbegins : ¬ begins (.request account mechanisms nonce) := by
          simp [begins, hrequest, Except.toBool]
        have hnone : ∀ data, (Operation.request account mechanisms nonce).call? ≠ some (.success data) := by
          intro data hdata
          cases hdata
        exact ⟨account', password, own, _, hunder.concat hbegins rfl rfl (.inl rfl) hnone⟩
    | receive stanza =>
      obtain ⟨current, s₀, hcurrent, hmechanism, hjid, hcall, hgoing, hanswer⟩ := receive_scram h hs
      obtain ⟨account, password, own, during, hunder⟩ := ih hcurrent hmechanism
      have hbegins : ¬ begins (.receive stanza) := Bool.false_ne_true
      exact ⟨account, password, own, _, hunder.concat hbegins hjid hcall hgoing hanswer⟩

/-! ## Success -/

theorem result_challenge_ne (current : Attempt) (text : String) (jid : Jid) :
    (challenge current text).result ≠ some (.succeeded jid) := by
  unfold challenge
  split
  · nofun
  · split <;> nofun

theorem success_succeeded {current : Attempt} {text : String} {jid : Jid}
    (h : (success current text).result = some (.succeeded jid)) :
    ∃ payload, Payload.decode text = .ok payload ∧
      (current.mechanism.success payload).2 = .ok () ∧ jid = current.jid := by
  unfold success at h
  split at h
  · cases h
  · next payload hdecode =>
    split at h
    · cases h
    · next hsuccess =>
      cases h
      exact ⟨payload, hdecode, hsuccess, rfl⟩

theorem operate_succeeded {current : Attempt} {jid : Jid}
    (h : (operate o (some current)).result = some (.succeeded jid)) :
    ∃ payload, o.call? = some (.success payload) ∧
      (current.mechanism.success payload).2 = .ok () ∧ jid = current.jid := by
  cases o with
  | request account mechanisms nonce =>
    rw [operate] at h
    split at h <;> cases h
  | receive stanza =>
    rw [operate] at h
    unfold receive at h
    split at h
    · cases h
    · next hns =>
      split at h
      · cases h
      · simp only at h
        split at h
        · exact absurd h (result_challenge_ne current stanza.text jid)
        · split at h
          · next hname =>
            obtain ⟨payload, hdecode, hsuccess, hjid⟩ := success_succeeded h
            exact ⟨payload, Operation.call?_success (not_not.1 hns) hname hdecode, hsuccess, hjid⟩
          · cases h

/-- A success is for the account of the attempt, and the server has proved itself. -/
theorem Underway.succeeded {a : Attempt} {password own : String} {during : List Operation} {jid : Jid}
    (h : Underway ops a s account password own during) (hs : a.mechanism = .scram s)
    (hjid : (operate o (some a)).result = some (.succeeded jid)) :
    jid = account.jid ∧ Proven Operation.call? (exchange account password own) (during ++ [o]) := by
  obtain ⟨payload, hcall, hsuccess, rfl⟩ := operate_succeeded hjid
  refine ⟨h.jid, proven_of_verified rfl (fun o _ => o.call?_ne_initial) ?_⟩
  rw [hs] at hsuccess
  rw [follow_concat, hcall, ← h.followed]
  exact success_ok hsuccess

/-- A server-first message takes an attempt to where it waits for the proof. -/
theorem receive_offers {a : Attempt} {m : Bytes} {choices : ServerFirst} (hs : a.mechanism = .scram s)
    (hphase : s.phase = .started) (hoffers : Offers s.nonce m choices) (hns : stanza.ns = Namespace.sasl)
    (hname : stanza.name = "challenge") (hdecode : Payload.decode stanza.text = .ok (some m)) :
    (receive (some a) stanza).attempt = some ⟨.scram (s.call (.response (some m))), a.jid⟩ := by
  obtain ⟨final, hfinal, -⟩ := clientFinal_of_offers hoffers s.username s.password
  simp [receive, hns, hname, challenge, hdecode, hs, Mechanism.response, response, hphase, hfinal, call]

/-- A success that shows the proof is announced. -/
theorem receive_shows {a : Attempt} {due m : Bytes} (hs : a.mechanism = .scram s)
    (hphase : s.phase = .proved due) (hshows : Shows due m) (hns : stanza.ns = Namespace.sasl)
    (hname : stanza.name = "success") (hdecode : Payload.decode stanza.text = .ok (some m)) :
    (receive (some a) stanza).result = some (.succeeded a.jid) := by
  simp [receive, hns, hname, success, hdecode, hs, Mechanism.success, Scram.success, hphase,
    verify_of_shows hshows]

/-- A success whose data shows no proof, or a wrong one. -/
def Unproven (due : Bytes) (stanza : Element) : Prop :=
  stanza.ns = Namespace.sasl ∧ stanza.name = "success" ∧
    (Payload.decode stanza.text = .ok none ∨
      ∃ m shown, Payload.decode stanza.text = .ok (some m) ∧ Shows shown m ∧ shown ≠ due)

/-- Such a success breaks down an exchange that waits for the proof. -/
theorem receive_unproven {a : Attempt} {due : Bytes} (hs : a.mechanism = .scram s)
    (hphase : s.phase = .proved due) (h : Unproven due stanza) :
    receive (some a) stanza = { attempt := none, result := some (.error .mutualAuthentication) } := by
  obtain ⟨hns, hname, hdata⟩ := h
  have hreceive : receive (some a) stanza = success a stanza.text := by
    simp [receive, hns, hname]
  rw [hreceive]
  rcases hdata with hdecode | ⟨m, shown, hdecode, hshows, hne⟩
  · simp [success, hdecode, hs, Mechanism.success, Scram.success, hphase, breakDown, AuthError.ofMechanism,
      MechanismError.isMutual]
  · simp [success, hdecode, hs, Mechanism.success, Scram.success, hphase, verify_of_shows hshows, hne, breakDown,
      AuthError.ofMechanism, MechanismError.isMutual]

/-- After a server-first message and before the proof, an exchange under way waits for the proof. -/
theorem Underway.proved {a : Attempt} {password own : String} {during : List Operation} {due : Bytes}
    (h : Underway ops a s account password own during)
    (hdue : Accepted Operation.call? (exchange account password own) due during)
    (hdone : s.isDone = false) : s.phase = .proved due := by
  have hphase := owes_of_accepted rfl (fun o _ => o.call?_ne_initial) hdue
  rw [← h.followed] at hphase
  rcases hphase with hproved | hverified | hfailed
  · exact hproved
  · exact absurd hverified (of_decide_eq_false hdone)
  · exact absurd hfailed h.going

/-! ## A login -/

def user : Account := { jid := { node := some "u", domain := "d" }, password := some "p" }

def offer : Element where
  tag := { name := "mechanisms", ns := Namespace.sasl }
  children := [.element { name := "mechanism", ns := Namespace.sasl } [.text "SCRAM-SHA-1"]]

def serverFirst : Bytes := Bytes.utf8 "r=nx,s=AA==,i=1"

def sent (name : String) (payload : Bytes) : Element :=
  .make name Namespace.sasl [] (Text.Base64.encode payload)

def login : List Operation :=
  [.request user offer (.ok "n"), .receive (sent "challenge" serverFirst)]

/-- The calls of an exchange with a server that shows this signature. -/
def loginCalls (due : Bytes) : List Call :=
  [.initial, .response (some serverFirst), .success (some (serverFinal due))]

theorem decode_sent (name : String) {payload : Bytes} (h : payload ≠ []) :
    Payload.decode (sent name payload).text = .ok (some payload) := by
  have htext : (sent name payload).text = Text.Base64.encode payload := by
    unfold sent Element.make Element.text
    split
    · next hempty => simp [hempty]
    · simp [Node.text?]
  rw [htext, Payload.decode_encode h]

theorem decode_challenge : Payload.decode (sent "challenge" serverFirst).text = .ok (some serverFirst) :=
  decode_sent "challenge" (by decide +kernel)

theorem offers_serverFirst : Offers "n" serverFirst ⟨"nx", [0], 1⟩ :=
  offers_of_parse (by decide +kernel)

/-- The server owes a signature. What it is does not matter, and it is never computed. -/
theorem proved_login : ∃ due, due = signature "u" "p" "n" serverFirst ⟨"nx", [0], 1⟩ ∧
    (exchange user "p" "n").call (.response (some serverFirst)) =
      { exchange user "p" "n" with phase := .proved due } :=
  ⟨_, rfl, started_offers rfl offers_serverFirst⟩

variable {due : Bytes} (hproved : (exchange user "p" "n").call (.response (some serverFirst)) =
  { exchange user "p" "n" with phase := .proved due })

include hproved

theorem attemptAfter_login : attemptAfter login =
    some ⟨.scram { exchange user "p" "n" with phase := .proved due }, user.jid⟩ := by
  have hbegun : attemptAfter [.request user offer (.ok "n")] =
      some ⟨.scram (exchange user "p" "n"), user.jid⟩ := rfl
  rw [login, ← List.singleton_append, attemptAfter_concat, hbegun, operate,
    receive_offers rfl rfl offers_serverFirst rfl rfl decode_challenge, hproved]

theorem isDone_login : ((Scram.mk "u" "p" "n" .created).run (loginCalls due)).isDone := by
  have hopened : (Scram.mk "u" "p" "n" .created).call .initial = exchange user "p" "n" := rfl
  have hrun : (Scram.mk "u" "p" "n" .created).run (loginCalls due) =
      { exchange user "p" "n" with phase := .verified } := by
    simp only [loginCalls, run, follow, List.filterMap_some, List.foldl_cons, List.foldl_nil, hopened,
      hproved]
    simp [call, Scram.success, verify_of_shows (shows_serverFinal due)]
  rw [hrun]
  rfl

omit hproved

theorem eq_of_latest_login {account : Account} {password own : String} {during : List Operation}
    (h : Latest login account password own during) : account = user ∧ password = "p" ∧ own = "n" ∧
      during = [.receive (sent "challenge" serverFirst)] := by
  obtain ⟨before, mechanisms, heq, -, hsecret, -⟩ := h
  match before, heq with
  | [], heq =>
    obtain ⟨⟨rfl, -, rfl⟩, rfl⟩ : (user = account ∧ offer = mechanisms ∧ "n" = own) ∧
        [.receive (sent "challenge" serverFirst)] = during := by
      rw [login, List.nil_append, List.cons.injEq, Operation.request.injEq, Except.ok.injEq] at heq
      exact heq
    cases hsecret
    exact ⟨rfl, rfl, rfl, rfl⟩
  | [_], heq => cases heq
  | _ :: _ :: before, heq => simp [login] at heq

/-! ## No login without the proof -/

/-- **No login with SCRAM succeeds without the server's proof.** An exchange is done only if a message
has shown the signature that was due for a server-first message, both since the latest initial message.
A success that is announced while an attempt with SCRAM is under way is for the account of that attempt,
in which the server has proved itself so. A success without that proof, before it has come, is announced
and reported as a failure of the server to authenticate itself. -/
theorem proof_of_success :
    (∀ s : Scram, s.phase = .created → ∀ calls, (s.run calls).isDone →
      ∃ before opening during, calls = before ++ opening :: during ∧ s.Opens before opening ∧
        .initial ∉ during ∧ Proven some { s with phase := .started } during) ∧
    ∀ ops a s, attemptAfter ops = some a → a.mechanism = .scram s →
      ∃ account password own during, Latest ops account password own during ∧
        (∀ o ∈ during, ∀ data, o.call? ≠ some (.success data)) ∧
        (∀ o jid, (operate o (some a)).result = some (.succeeded jid) → jid = account.jid ∧
          Proven Operation.call? (exchange account password own) (during ++ [o])) ∧
        ∀ due stanza, Accepted Operation.call? (exchange account password own) due during →
          s.isDone = false → Unproven due stanza →
          (operate (.receive stanza) (some a)).result = some (.error .mutualAuthentication) ∧
            (operate (.receive stanza) (some a)).error? = some .mutualAuthentication := by
  refine ⟨fun s hs calls h => proven_of_isDone hs h, ?_⟩
  intro ops a s ha hs
  obtain ⟨account, password, own, during, hunder⟩ := underway ha hs
  refine ⟨account, password, own, during, hunder.latest, hunder.unanswered, ?_, ?_⟩
  · intro o jid hjid
    exact hunder.succeeded hs hjid
  · intro due stanza hdue hdone hunproven
    rw [operate, receive_unproven hs (hunder.proved hdue hdone) hunproven]
    exact ⟨rfl, rfl⟩

/-- A login that ends well, and what becomes of it when the success comes without the proof. -/
theorem proof_of_login : ∃ due a, attemptAfter login = some a ∧
    (∃ before opening during, loginCalls due = before ++ opening :: during ∧
      (Scram.mk "u" "p" "n" .created).Opens before opening ∧ .initial ∉ during ∧
      Proven some (exchange user "p" "n") during) ∧
    (operate (.receive (sent "success" (serverFinal due))) (some a)).result =
      some (.succeeded user.jid) ∧
    Proven Operation.call? (exchange user "p" "n")
      [.receive (sent "challenge" serverFirst), .receive (sent "success" (serverFinal due))] ∧
    (operate (.receive (sent "success" [])) (some a)).error? = some .mutualAuthentication := by
  obtain ⟨hexchange, hattempt⟩ := proof_of_success
  obtain ⟨due, hdue, hproved⟩ := proved_login
  obtain ⟨a, hafter, hmechanism, hjid⟩ : ∃ a, attemptAfter login = some a ∧
      a.mechanism = .scram { exchange user "p" "n" with phase := .proved due } ∧ a.jid = user.jid :=
    ⟨_, attemptAfter_login hproved, rfl, rfl⟩
  obtain ⟨account, password, own, during, hlatest, -, hproof, hmutual⟩ := hattempt login a _ hafter hmechanism
  obtain ⟨rfl, rfl, rfl, rfl⟩ := eq_of_latest_login hlatest
  have hsucceeded : (operate (.receive (sent "success" (serverFinal due))) (some a)).result =
      some (.succeeded user.jid) := by
    have hshows := shows_serverFinal due
    rw [operate, ← hjid]
    exact receive_shows hmechanism rfl hshows rfl rfl (decode_sent "success" (ne_nil_of_shows hshows))
  have haccepted : Accepted Operation.call? (exchange user "p" "n") due
      [.receive (sent "challenge" serverFirst)] :=
    ⟨[], _, [], serverFirst, _, rfl, rfl, Operation.call?_challenge rfl rfl decode_challenge,
      offers_serverFirst, hdue⟩
  have hempty : Payload.decode (sent "success" []).text = .ok none := by decide +kernel
  refine ⟨due, a, hafter, hexchange _ rfl _ (isDone_login hproved), hsucceeded,
    (hproof _ _ hsucceeded).2, ?_⟩
  exact (hmutual due (sent "success" []) haccepted rfl ⟨rfl, rfl, .inl hempty⟩).2

end Negotiation

end XmppBosh.Sasl
