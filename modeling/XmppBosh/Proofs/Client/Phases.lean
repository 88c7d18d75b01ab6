import XmppBosh.Proofs.Bosh.Drafts
import XmppBosh.Proofs.Client.Serving

/-!
# What a login does when it goes on

* `Going`, `Fits` : a login is in a phase, no other is under way, and what is so in that phase;
* `Attends.consult`, `Means` : a login reads its mail, and what it reads is so;
* `Idle`, `Settled` : what a login leaves behind when it is through;
* `Advances` : a login goes on, or it is through;
* `Going.refused`, `Going.admitted`, `Reserved.gone` : a login that the server did not let in, one that it let in,
  and one that has lost its session;
* `Going.awaitResult`, `Going.begin`, `Going.awaitOffer`, `Going.enter` : what a login does in each phase, from the
  last to the first; `Going.resume` : all of them.
-/

namespace XmppBosh.Client

open Sasl (Attempt Operation)
open Sasl.Negotiation (operate attemptAfter begins results)

namespace World

variable {act : Act} {w w' w₀ : World} {seat : Seat} {asked asked' : Option (List Operation)} {k box : Nat}
  {account : Account} {phase : LoginPhase}

/-! ## How far a login has come -/

/-- The link is at rest, and nobody logs in. -/
structure Idle (w : World) : Prop extends Reserved w where
  rest : w.Rest
  finished : ∀ l ∈ w.logins, l.phase = .finished

/-- What has shown since. -/
def since (w w' : World) : List Event := w'.log.drop w.log.length

def Posted (name value : String) (events : List Event) : Prop :=
  ∃ index request body, .request index request ∈ events ∧ Bosh.Body.attr? name body = some value ∧
    request.text = body.text

def Pending (name value : String) (w : World) : Prop :=
  ∃ s body, w.session? 0 = some s ∧ s.pending = some body ∧ Bosh.Body.attr? name body = some value

/-- What is so while a login is in a phase. -/
def Fits (seat : Seat) (asked : Option (List Operation)) (w : World) : LoginPhase → Prop
  | .entering => asked = none ∧ w.Rest
  | .waiting stanzas states manager | .offered stanzas states manager _ =>
    asked = none ∧ manager = seat.manager ∧ seat.first ≤ stanzas ∧ seat.first ≤ states ∧ w.Opened
  | .authenticating _ states manager results =>
    asked.isSome ∧ manager = seat.manager ∧ seat.first ≤ states ∧ seat.first ≤ results ∧ w.Opened
  | .finished => asked = none

/-- A login is the only one under way. -/
structure Alone (k : Nat) (l : Login) (w : World) : Prop where
  own : w.logins[k]? = some l
  others : ∀ i (l' : Login), w.logins[i]? = some l' → i ≠ k → l'.phase = .finished

theorem Alone.of_logins {l : Login} (h : Alone k l w) (hlogins : w'.logins = w.logins) : Alone k l w' :=
  ⟨hlogins ▸ h.own, hlogins ▸ h.others⟩

theorem Alone.setPhase {l : Login} (h : Alone k l w) (phase : LoginPhase) :
    Alone k { l with phase } (w.setLoginPhase k phase) := by
  refine ⟨by simp [setLoginPhase, h.own], fun i l' hl' hi => h.others i l' ?_ hi⟩
  simpa [setLoginPhase, Ne.symm hi] using hl'

theorem Alone.managerAlive {l : Login} (h : Alone k l w) (hw : w.Reserved) (i : Nat) :
    w.managerAlive i = decide (l.manager? = some i) := by
  rw [hw.managerAlive, Bool.eq_iff_iff, List.any_eq_true, decide_eq_true_iff]
  constructor
  · rintro ⟨l', hmem, hl'⟩
    obtain ⟨j, hj⟩ := List.mem_iff_getElem?.1 hmem
    by_cases hjk : j = k
    · subst hjk
      obtain rfl : l = l' := Option.some.inj (h.own.symm.trans hj)
      simpa using hl'
    · simp [Login.manager?, h.others j l' hj hjk] at hl'
  · exact fun hl => ⟨l, List.mem_of_getElem? h.own, by simpa using hl⟩

/-- A login is in a phase, and no other is under way. -/
structure Going (k : Nat) (account : Account) (phase : LoginPhase) (seat : Seat) (asked : Option (List Operation))
    (w : World) : Prop where
  attends : Attends seat asked w
  alone : Alone k { link := 0, account, phase } w
  fits : Fits seat asked w phase

theorem Going.comes (h : Going k account phase seat asked w) (hc : Comes seat asked' w w')
    (hasked : asked'.isSome = asked.isSome) : Going k account phase seat asked' w' := by
  have hnone : asked = none → asked' = none := by
    rintro rfl
    simpa using hasked
  refine ⟨hc.attends, h.alone.of_logins hc.serves.logins, ?_⟩
  have hfits := h.fits
  cases phase with
  | entering => exact ⟨hnone hfits.1, hc.serves.rest hfits.2⟩
  | waiting =>
    obtain ⟨hn, hm, hbox, hstates, ho⟩ := hfits
    exact ⟨hnone hn, hm, hbox, hstates, hc.serves.opened ho⟩
  | offered =>
    obtain ⟨hn, hm, hbox, hstates, ho⟩ := hfits
    exact ⟨hnone hn, hm, hbox, hstates, hc.serves.opened ho⟩
  | authenticating =>
    obtain ⟨hn, hm, hbox, hstates, ho⟩ := hfits
    exact ⟨hasked ▸ hn, hm, hbox, hstates, hc.serves.opened ho⟩
  | finished => exact hnone hfits

/-- A login that is through leaves nothing but a link at rest, if the link is at rest. -/
theorem Going.idle (h : Going k account .finished seat asked w) (hrest : w.Rest) : w.Idle where
  toReserved := h.attends.toReserved
  rest := hrest
  finished l hl := by
    obtain ⟨i, hi⟩ := List.mem_iff_getElem?.1 hl
    by_cases hik : i = k
    · subst hik
      obtain rfl := Option.some.inj (h.alone.own.symm.trans hi)
      rfl
    · exact h.alone.others i l hi hik

/-! ## Reading mail -/

theorem sign_of_readMail {budget left : Nat} {mail rest : List Mail} {sign : Option Sign}
    (h : readMail budget mail = (sign, left, rest)) :
    rest ⊆ mail ∧ ∀ s, sign = some s → ∃ m ∈ mail, sign? m = some s := by
  induction mail generalizing budget with
  | nil =>
    cases budget <;> cases h <;> exact ⟨List.Subset.refl _, by simp⟩
  | cons m mail ih =>
    cases budget with
    | zero =>
      cases h
      exact ⟨List.Subset.refl _, by simp⟩
    | succ budget =>
      rw [readMail] at h
      cases hm : sign? m with
      | some s =>
        simp only [hm, Prod.mk.injEq] at h
        obtain ⟨rfl, -, rfl⟩ := h
        exact ⟨List.subset_cons_self .., fun s' hs => ⟨m, List.mem_cons_self, hm.trans hs⟩⟩
      | none =>
        simp only [hm] at h
        obtain ⟨hsub, hsign⟩ := ih h
        refine ⟨List.Subset.trans hsub (List.subset_cons_self ..), fun s hs => ?_⟩
        obtain ⟨m', hmem, hm'⟩ := hsign s hs
        exact ⟨m', List.mem_cons_of_mem _ hmem, hm'⟩

theorem mem_inTurn {α : Type} {a : α} (as bs : List α) : a ∈ inTurn as bs → a ∈ as ∨ a ∈ bs := by
  induction as generalizing bs with
  | nil =>
    rw [inTurn]
    exact .inr
  | cons b as ih =>
    cases bs with
    | nil =>
      rw [inTurn]
      · exact .inl
      · simp
    | cons c bs =>
      rw [inTurn, List.mem_cons, List.mem_cons]
      rintro (rfl | rfl | h)
      · exact .inl List.mem_cons_self
      · exact .inr List.mem_cons_self
      · exact (ih bs h).imp (List.mem_cons_of_mem _) (List.mem_cons_of_mem _)

theorem mem_content_keep {id : Nat} {mail : Mail} {content : List Mail}
    (h : mail ∈ (w.keep id content).content box) : mail ∈ content ∨ mail ∈ w.content box := by
  by_cases hid : id = box
  · subst hid
    cases hb : w.mailboxes[id]? <;> simp [keep, modifyMailbox, World.content, hb] at h
    exact .inl h
  · simp [keep, modifyMailbox, World.content, hid] at h
    exact .inr (by simpa [World.content] using h)

theorem mem_content_await {id : Nat} {mail : Mail} {t : Task} (h : mail ∈ (w.await id t).content box) :
    mail ∈ w.content box := by
  by_cases hid : id = box
  · subst hid
    cases hb : w.mailboxes[id]? <;> simp [await, modifyMailbox, World.content, hb] at h
  · simp [await, modifyMailbox, World.content, hid] at h
    simpa [World.content] using h

def Means (asked : Option (List Operation)) (w : World) : Sign → Prop
  | .offer _ => True
  | .gone _ => w.Rest
  | .concluded outcome => ∀ jid, outcome = .ok jid → ∃ ops, asked = some ops ∧ .succeeded jid ∈ results ops

theorem Good.means {mail : Mail} {sign : Sign} (h : Good asked w mail) (hsign : sign? mail = some sign)
    (hrest : w.Rest → w'.Rest) : Means asked w' sign := by
  cases mail with
  | stanza e =>
    obtain ⟨mechanisms, -, rfl⟩ := Option.map_eq_some_iff.1 hsign
    trivial
  | notice n =>
    obtain ⟨reason, hreason, rfl⟩ := Option.map_eq_some_iff.1 hsign
    exact hrest (h (by rw [hreason]; rfl))
  | result r =>
    cases hsign
    intro jid hjid
    cases r with
    | succeeded jid' =>
      cases hjid
      exact h
    | failed | error => cases hjid

theorem defer_eq (t : Task) (w : World) : w.defer t = { w with deferred := (w.defer t).deferred } := by
  unfold defer
  split <;> rfl

theorem Attends.consult (h : Attends seat asked w) (k budget : Nat) {states : Nat} (hbox : seat.first ≤ box)
    (hstates : seat.first ≤ states) : Comes seat asked w (w.consult k budget box states).1 ∧
      ∀ sign left, (w.consult k budget box states).2 = some (sign, left) →
        Means asked (w.consult k budget box states).1 sign := by
  obtain ⟨sign, left, rest, hread⟩ : ∃ sign left rest,
      readMail budget (inTurn (w.content box) (w.content states)) = (sign, left, rest) := ⟨_, _, _, rfl⟩
  obtain ⟨hrest, hsign⟩ := sign_of_readMail hread
  have hgood : ∀ mail ∈ inTurn (w.content box) (w.content states), Good asked w mail := fun mail hmem =>
    (mem_inTurn _ _ hmem).elim (h.mail box hbox mail) (h.mail states hstates mail)
  -- What is left in the mailboxes was there before.
  have hkept : ∀ (p q : Mail → Bool) (b : Nat), seat.first ≤ b →
      ∀ mail ∈ World.content b ((w.keep box (rest.filter p)).keep states (rest.filter q)), Good asked w mail := by
    intro p q b hb mail hmem
    rcases mem_content_keep hmem with hmem | hmem
    · exact hgood mail (hrest (List.mem_of_mem_filter hmem))
    · rcases mem_content_keep hmem with hmem | hmem
      · exact hgood mail (hrest (List.mem_of_mem_filter hmem))
      · exact h.mail b hb mail hmem
  simp only [World.consult, hread]
  cases sign with
  | some s =>
    refine ⟨(Comes.refl h).still rfl (by simp [keep, modifyMailbox]) (.of_log rfl) fun b hb mail hmem =>
      .inr (hkept _ _ b hb mail hmem), ?_⟩
    rintro sign left' heq
    obtain ⟨rfl, -⟩ := Prod.mk.inj (Option.some.inj heq)
    obtain ⟨mail, hmem, hm⟩ := hsign s rfl
    exact (hgood mail hmem).means hm id
  | none =>
    dsimp only
    split
    · refine ⟨?_, fun _ _ hnone => by cases hnone⟩
      rw [defer_eq]
      exact (Comes.refl h).still rfl (by simp [keep, modifyMailbox]) (.of_log rfl) fun b hb mail hmem =>
        .inr (hkept _ _ b hb mail hmem)
    · refine ⟨(Comes.refl h).still rfl (by simp [await, modifyMailbox]) (.of_log rfl) fun b hb mail hmem =>
        .inl ?_, fun _ _ hnone => by cases hnone⟩
      exact mem_content_await (mem_content_await hmem)

/-! ## The end -/

theorem closeMailboxes_eq (boxes : List Nat) (w : World) :
    ∃ mailboxes, boxes.foldl (fun w b => w.closeMailbox b) w = { w with mailboxes } := by
  induction boxes generalizing w with
  | nil => exact ⟨w.mailboxes, rfl⟩
  | cons b boxes ih => exact ih (w.closeMailbox b)

theorem finishLogin_eq {l : Login} (hl : w.logins[k]? = some l) (out : Except ClientError Jid) : ∃ mailboxes,
    w.finishLogin k out = (({ w with mailboxes } : World).setLoginPhase k .finished).note (.login out) := by
  obtain ⟨mailboxes, hclosed⟩ := closeMailboxes_eq (loginMailboxes l.phase) w
  simp only [finishLogin, hl, hclosed]
  exact ⟨mailboxes, rfl⟩

theorem Reserved.attends (h : w.Reserved) (hdead : ∀ i, w.managerAlive i = false) :
    Attends ⟨w.mailboxes.length, w.managers.length, 0⟩ none w where
  toReserved := h
  alive i hi := by simp [hdead] at hi
  linked hi := by simp [hdead] at hi
  listed hi := by simp [hdead] at hi
  once hi := by simp [hdead] at hi
  attempt _ hnone := by cases hnone
  unasked _ := ⟨by simp [attemptOf], fun box => by simp [registry, Registry.toList]⟩
  first := Nat.le_refl _
  mail box hbox mail hmem := by simp [World.content, List.getElem?_eq_none hbox] at hmem

theorem Reserved.finish (h : w.Reserved) (halone : Alone k { link := 0, account, phase } w)
    (out : Except ClientError Jid) : ∃ seat, Going k account .finished seat none (w.finishLogin k out) ∧
      (w.finishLogin k out).log = w.log ++ [.login out] ∧ (w.finishLogin k out).links = w.links := by
  obtain ⟨mailboxes, heq⟩ := finishLogin_eq halone.own out
  rw [heq]
  have hreserved : ((({ w with mailboxes } : World).setLoginPhase k .finished).note (.login out)).Reserved :=
    ⟨h.link, h.links, h.manager, h.scripts, h.session, h.authentications, h.numbered, h.known⟩
  have hset : Alone k { link := 0, account, phase := .finished }
      ((({ w with mailboxes } : World).setLoginPhase k .finished).note (.login out)) :=
    (halone.setPhase .finished).of_logins rfl
  exact ⟨_, ⟨hreserved.attends (hset.managerAlive hreserved), hset, rfl⟩, rfl, rfl⟩

/-! ## One turn of a login -/

/-- What a login leaves behind. -/
def Settled (asked : Option (List Operation)) (w w' : World) : Except ClientError Jid → Prop
  | .error e => w'.Idle ∧ ∀ cause, e = .auth cause → Posted "type" "terminate" (since w w')
  | .ok jid => (∃ ops, asked = some ops ∧ .succeeded jid ∈ results ops) ∧
    (Pending "xmpp:restart" "true" w' ∨ Posted "xmpp:restart" "true" (since w w'))

/-- A login goes on, or it is through. -/
inductive Advances (k : Nat) (account : Account) (asked : Option (List Operation)) (w w' : World) : Prop
  | goes (phase : LoginPhase) (seat : Seat) (asked' : Option (List Operation))
    (going : Going k account phase seat asked' w') (silent : Silent w w')
    (asking : ∀ ops, asked' = some ops → asked = some ops ∨ asked = none ∧ ∃ mechanisms nonce,
      begins (.request account mechanisms nonce) ∧ ops = [.request account mechanisms nonce])
  | ends (out : Except ClientError Jid) (seat : Seat) (going : Going k account .finished seat none w')
    (log : ∃ between, Silent w between ∧ w'.log = between.log ++ [.login out]) (settled : Settled asked w w' out)

theorem Going.goes (h : Going k account phase seat asked w) (hsilent : Silent w₀ w) :
    Advances k account asked w₀ w :=
  .goes phase seat asked h hsilent fun _ => .inl

theorem Rest.of_links (h : w.Rest) (hlinks : w'.links = w.links) : w'.Rest := by
  rw [Rest, session?, hlinks]
  exact h

/-- A login that has lost its session leaves the link at rest. -/
theorem Reserved.gone (h : w.Reserved) (halone : Alone k { link := 0, account, phase } w) (hsilent : Silent w₀ w)
    (hrest : w.Rest) {e : ClientError} (he : ∀ cause, e ≠ .auth cause) :
    Advances k account asked w₀ (w.finishLogin k (.error e)) := by
  obtain ⟨seat, hgoing, hlog, hlinks⟩ := h.finish halone (.error e)
  exact .ends (.error e) seat hgoing ⟨w, hsilent, hlog⟩
    ⟨hgoing.idle (hrest.of_links hlinks), fun cause hcause => absurd hcause (he cause)⟩

theorem mem_since {new : List Event} {e : Event} (hsilent : Silent w₀ w) (hlog : w.log ++ new <+: w'.log)
    (he : e ∈ new) : e ∈ since w₀ w' := by
  obtain ⟨before, hw, -⟩ := hsilent
  obtain ⟨after, hlog⟩ := hlog
  rw [since, ← hlog, hw, List.append_assoc, List.append_assoc, List.drop_left]
  exact List.mem_append_right _ (List.mem_append_left _ he)

theorem mem_posted {first : Nat} {requests : List Bosh.Request} {request : Bosh.Request} (h : request ∈ requests) :
    ∃ index, .request index request ∈ posted first requests := by
  rw [← List.zipIdx_map_fst first requests] at h
  obtain ⟨⟨_, index⟩, hmem, rfl⟩ := List.mem_map.1 h
  exact ⟨index, List.mem_map.2 ⟨_, hmem, rfl⟩⟩

/-- A login that was refused ends the session. -/
theorem Going.refused (h : Going k account phase seat asked w) (hsilent : Silent w₀ w) (hopened : w.Opened)
    (act : Act) (cause : AuthError) : Advances k account asked' w₀ (w.concludeLogin act k 0 (.error cause)) := by
  obtain ⟨s, hs, hsettings, hstream, -⟩ := hopened
  obtain ⟨request, hrequest⟩ : ∃ request, request ∈ (s.disconnect w.now).posts := by
    obtain ⟨settings, hset⟩ := Option.isSome_iff_exists.1 hsettings
    rw [Bosh.Session.posts_disconnect hset, if_pos hstream]
    exact ⟨_, List.mem_singleton_self _⟩
  have hc : Comes seat asked w (w.stepSession act 0 .disconnect) :=
    (Comes.refl h.attends).stepSession act 0 (fun _ _ => rfl) rfl
  obtain ⟨hsession, more, hlog⟩ := stepSession_eq act h.attends.scripts hs .disconnect
  obtain ⟨seat', hgoing, hfinished, hlinks⟩ := hc.attends.finish (h.comes hc rfl).alone (.error (.auth cause))
  have hprefix : w.log ++ posted w.exchanges.length (s.disconnect w.now).posts <+:
      (w.concludeLogin act k 0 (.error cause)).log := by
    rw [concludeLogin, hfinished, hlog, List.append_assoc]
    exact List.prefix_append _ _
  have hrest : (w.stepSession act 0 .disconnect).Rest := ⟨_, hsession, rfl, Bosh.Session.sid?_disconnect _ _⟩
  refine .ends _ seat' hgoing ⟨_, hsilent.trans hc.serves.silent, hfinished⟩
    ⟨hgoing.idle (hrest.of_links hlinks), fun _ _ => ?_⟩
  obtain ⟨index, hposted⟩ := mem_posted hrequest
  exact ⟨index, request, _, mem_since hsilent hprefix hposted, by rw [Bosh.Body.attr?_set, if_pos rfl],
    Bosh.Session.text_of_mem_disconnect hsettings hrequest⟩

/-- A login that was let in asks for a new stream. -/
theorem Going.admitted (h : Going k account phase seat asked w) (hsilent : Silent w₀ w) (act : Act) {jid : Jid}
    (hjid : ∃ ops, asked = some ops ∧ .succeeded jid ∈ results ops) :
    Advances k account asked w₀ (w.concludeLogin act k 0 (.ok jid)) := by
  obtain ⟨s, hs, hsound⟩ := h.attends.session
  have hstep := steps_stepSession act hs (i := .restart) rfl
  have hrest : w.Rest → (w.stepSession act 0 .restart).Rest := .steps hs rfl hstep
  have hattends : Attends seat asked (w.stepSession act 0 .restart) :=
    h.attends.steps (hsound.step w.now .restart) hstep fun box hbox mail hmem =>
      (h.attends.mail box hbox mail hmem).of_rest hrest
  have hsilent₁ := hsilent.trans hstep.silent
  have halone := h.alone.of_logins hstep.keeps.logins
  have hsession := hstep.session
  generalize hw₁ : w.stepSession act 0 .restart = w₁ at hattends hsilent₁ halone hsession
  have hc : Comes seat asked w₁ (w₁.stepSession act 0 .flush) :=
    (Comes.refl hattends).stepSession act 0 (fun _ _ => rfl) rfl
  obtain ⟨hsession', more, hlog⟩ := stepSession_eq act hattends.scripts hsession .flush
  obtain ⟨seat', hgoing, hfinished, hlinks⟩ :=
    hc.attends.finish (halone.of_logins hc.serves.logins) (.ok jid)
  have hend : w.concludeLogin act k 0 (.ok jid) = (w₁.stepSession act 0 .flush).finishLogin k (.ok jid) := by
    rw [concludeLogin, hw₁]
  rw [hend]
  refine .ends _ seat' hgoing ⟨_, hsilent₁.trans hc.serves.silent, hfinished⟩ ⟨hjid, ?_⟩
  have hpending : s.restart.pending = some (s.draft.restart ((s.settings.map Bosh.Settings.hostName).getD "")) :=
    Bosh.Session.pending_edit _ _
  rcases Bosh.Session.pending_or_posted hpending w₁.now with hpending | ⟨request, hmem, htext⟩
  · refine .inl ⟨_, _, ?_, hpending, Bosh.Body.attr?_restart _ _⟩
    rw [session?, hlinks]
    exact hsession'
  · obtain ⟨index, hposted⟩ := mem_posted hmem
    refine .inr ⟨index, request, _, mem_since hsilent₁ ?_ hposted, Bosh.Body.attr?_restart _ _, htext⟩
    rw [hfinished, hlog, List.append_assoc]
    exact List.prefix_append _ _

theorem Going.awaitResult {stanzas states manager results : Nat}
    (h : Going k account (.authenticating stanzas states manager results) seat asked w) (hsilent : Silent w₀ w)
    (act : Act) (budget : Nat) : Advances k account asked w₀ (w.awaitResult act k budget 0 states results) := by
  obtain ⟨-, -, hstates, hresults, -⟩ := h.fits
  obtain ⟨hc, hsign⟩ := h.attends.consult k budget hresults hstates
  have hgoing := h.comes hc rfl
  have hsilent := hsilent.trans hc.serves.silent
  rw [World.awaitResult]
  generalize w.consult k budget results states = r at hc hsign hgoing hsilent ⊢
  obtain ⟨w₁, sign⟩ := r
  rcases sign with _ | ⟨sign, left⟩
  · exact hgoing.goes hsilent
  · have hmeans := hsign sign left rfl
    cases sign with
    | offer mechanisms => exact hgoing.goes hsilent
    | gone reason => exact hgoing.attends.gone hgoing.alone hsilent hmeans fun _ heq => by cases heq
    | concluded outcome =>
      cases outcome with
      | ok jid => exact hgoing.admitted hsilent act (hmeans jid rfl)
      | error cause => exact hgoing.refused hsilent hgoing.fits.2.2.2.2 act cause

theorem Advances.of_request {mechanisms : Xml.Element} {nonce : Except Sasl.MechanismError String}
    (hbegins : begins (.request account mechanisms nonce))
    (h : Advances k account (some [.request account mechanisms nonce]) w w') : Advances k account none w w' := by
  cases h with
  | goes phase seat asked' going silent asking =>
    refine .goes phase seat asked' going silent fun ops hops => .inr ⟨rfl, ?_⟩
    rcases asking ops hops with hsame | ⟨hnone, -⟩
    · exact ⟨mechanisms, nonce, hbegins, (Option.some.inj hsame).symm⟩
    · cases hnone
  | ends out seat going log settled =>
    refine .ends out seat going log ?_
    cases out with
    | error e => exact settled
    | ok jid =>
      obtain ⟨⟨ops, hops, hresult⟩, -⟩ := settled
      cases hops
      have hnothing : results [.request account mechanisms nonce] = [] := by
        rw [← List.nil_append [_], Sasl.Negotiation.results_concat, Sasl.Negotiation.result_request]
        rfl
      rw [hnothing] at hresult
      cases hresult

theorem Attends.setPhase (h : Attends seat asked w) {l : Login} (hl : Alone k l w) {phase : LoginPhase}
    (hmanager : ({ l with phase } : Login).manager? = l.manager?) :
    Attends seat asked (w.setLoginPhase k phase) := by
  have hreserved : (w.setLoginPhase k phase).Reserved :=
    ⟨h.link, h.links, h.manager, h.scripts, h.session, h.authentications, h.numbered, h.known⟩
  have halive : ∀ i, (w.setLoginPhase k phase).managerAlive i = w.managerAlive i := by
    intro i
    rw [(hl.setPhase phase).managerAlive hreserved, hl.managerAlive h.toReserved, hmanager]
  refine ⟨hreserved, ?_, ?_, ?_, ?_, ?_, h.unasked, h.first, h.mail⟩ <;> simp only [halive]
  · exact h.alive
  · exact h.linked
  · exact h.listed
  · exact h.once
  · exact h.attempt

theorem Attends.subscribe (h : Attends seat none w) (halive : w.managerAlive seat.manager) :
    Attends seat (some []) (w.subscribeTo (.results seat.manager)).1 := by
  obtain ⟨m, hm, -⟩ := h.linked halive
  generalize hw' : (w.subscribeTo (.results seat.manager)).1 = w'
  have hmanagers : w'.managers = w.managers.modify seat.manager fun m =>
      { m with results := m.results.add (.mailbox w.mailboxes.length) } := by
    rw [← hw']
    rfl
  refine h.change ?_ (by rw [← hw']; exact h.session) ⟨fun _ => true, ?_, fun _ => rfl⟩ ?_
    (fun hnone => by cases hnone) fun box hbox mail hmem => ?_
  · rw [← hw']
    exact ⟨rfl, rfl, rfl, rfl, rfl, rfl, managers_modifyManager seat.manager
      (fun m => { m with results := m.results.add (.mailbox w.mailboxes.length) }) (fun _ => rfl) _,
      (by simp [subscribeTo, openMailbox, addListener, updateRegistry, modifyManager])⟩
  · rw [Registry.sift_true, ← hw']
    rfl
  · rintro _ ⟨⟩
    refine ⟨halive, ?_⟩
    have hattempt := (h.unasked rfl).1
    rw [attemptOf, hm, Option.bind_some] at hattempt
    simp [attemptOf, hmanagers, hm, hattempt, attemptAfter]
  · have hmailboxes : w'.mailboxes = w.mailboxes ++ [({} : Mailbox)] := by
      rw [← hw']
      rfl
    rw [World.content, hmailboxes, List.getElem?_append] at hmem
    split at hmem
    · have hgood := h.mail box hbox mail hmem
      cases mail with
      | stanza e => trivial
      | notice n =>
        rw [← hw']
        exact hgood
      | result r =>
        obtain ⟨ops, hops, -⟩ := hgood
        cases hops
    · rw [List.getElem?_singleton] at hmem
      split at hmem <;> cases hmem

theorem Going.listen {stanzas states manager : Nat} {mechanisms : Xml.Element}
    (h : Going k account (.offered stanzas states manager mechanisms) seat asked w) :
    Going k account (.authenticating stanzas states manager w.mailboxes.length) seat (some [])
      ((w.subscribeTo (.results manager)).1.setLoginPhase k
        (.authenticating stanzas states manager w.mailboxes.length)) := by
  obtain ⟨rfl, rfl, -, hstates, hopened⟩ := h.fits
  have halive : w.managerAlive seat.manager := by
    rw [h.alone.managerAlive h.attends.toReserved]
    simp [Login.manager?]
  have halone : Alone k _ (w.subscribeTo (.results seat.manager)).1 := h.alone.of_logins rfl
  exact ⟨(h.attends.subscribe halive).setPhase halone rfl, halone.setPhase _, rfl, rfl, hstates, h.attends.first,
    hopened⟩

theorem Going.ask {stanzas states manager results : Nat}
    (h : Going k account (.authenticating stanzas states manager results) seat (some []) w) (hsilent : Silent w₀ w)
    (act : Act) (budget : Nat) (mechanisms : Xml.Element) : Advances k account none w₀
      (match w.authorize act manager account mechanisms with
        | (w, .error e) => w.concludeLogin act k 0 (.error e)
        | (w, .ok ()) => w.awaitResult act k budget 0 states results) := by
  obtain ⟨-, rfl, -, -, hopened⟩ := h.fits
  obtain ⟨m, hm, hlink⟩ := h.attends.linked (h.attends.attempt [] rfl).1
  simp only [authorize, hm]
  cases hrequest : Sasl.Negotiation.request account mechanisms m.nonce with
  | error e => exact h.refused hsilent hopened act e
  | ok started =>
    obtain ⟨attempt, stanza⟩ := started
    have hbegins : begins (.request account mechanisms m.nonce) := by
      rw [begins, hrequest]
      rfl
    have hasked := (Comes.refl h.attends).setAttempt hm (o := .request account mechanisms m.nonce) (.inr rfl)
    have hattempt : (operate (.request account mechanisms m.nonce) m.attempt).attempt = some attempt := by
      rw [operate, hrequest]
    rw [hattempt] at hasked
    have hsent := hasked.sendOn act m.link stanza
    have hgoing := h.comes hsent rfl
    exact (hgoing.awaitResult (hsilent.trans hsent.serves.silent) act budget).of_request hbegins

theorem Going.begin {stanzas states manager : Nat} {mechanisms : Xml.Element}
    (h : Going k account (.offered stanzas states manager mechanisms) seat asked w) (hsilent : Silent w₀ w)
    (act : Act) (budget : Nat) (phase : LoginPhase) : Advances k account none w₀
      (w.beginLogin act k budget { link := 0, account, phase } stanzas states manager mechanisms) := by
  obtain ⟨rfl, -⟩ := h.fits
  unfold beginLogin
  split
  -- It has looked at enough mail for this turn, and goes on in a later one.
  · rw [defer_eq]
    have hc : Comes seat none w { w with deferred := (w.defer (.login k)).deferred } :=
      (Comes.refl h.attends).wait rfl rfl rfl
    exact (h.comes hc rfl).goes (hsilent.trans hc.serves.silent)
  · exact h.listen.ask (hsilent.trans (.of_log rfl)) act budget mechanisms

theorem Going.awaitOffer {stanzas states manager : Nat}
    (h : Going k account (.waiting stanzas states manager) seat asked w) (hsilent : Silent w₀ w) (act : Act)
    (budget : Nat) (phase : LoginPhase) : Advances k account none w₀
      (w.awaitOffer act k budget { link := 0, account, phase } stanzas states manager) := by
  obtain ⟨rfl, rfl, hstanzas, hstates, hopened⟩ := h.fits
  obtain ⟨hc, hsign⟩ := h.attends.consult k budget hstanzas hstates
  have hgoing := h.comes hc rfl
  have hsilent := hsilent.trans hc.serves.silent
  rw [World.awaitOffer]
  generalize w.consult k budget stanzas states = r at hc hsign hgoing hsilent ⊢
  obtain ⟨w₁, sign⟩ := r
  rcases sign with _ | ⟨sign, left⟩
  · exact hgoing.goes hsilent
  · have hmeans := hsign sign left rfl
    cases sign with
    | offer mechanisms =>
      have hset : Going k account (.offered stanzas states seat.manager mechanisms) seat none
          (w₁.setLoginPhase k (.offered stanzas states seat.manager mechanisms)) :=
        ⟨hgoing.attends.setPhase hgoing.alone rfl, hgoing.alone.setPhase _, hgoing.fits⟩
      exact hset.begin (hsilent.trans (.of_log rfl)) act left phase
    | gone reason => exact hgoing.attends.gone hgoing.alone hsilent hmeans fun _ heq => by cases heq
    | concluded outcome => exact hgoing.goes hsilent

/-! ## Entering -/

def seated (w : World) : LoginPhase :=
  .waiting w.mailboxes.length (w.mailboxes.length + 1) w.managers.length

/-- A login sets up its mailboxes and its manager. -/
def furnish (k : Nat) (w : World) : World :=
  (((w.subscribeTo (.link 0 .received)).1.subscribeTo (.link 0 .state)).1.newManager 0).1.setLoginPhase k w.seated

structure Furnished (w w' : World) : Prop where
  link : w'.link = w.link
  links : w'.links.length = w.links.length
  manager : w'.manager = w.manager
  scripts : w'.scripts = w.scripts
  session : w'.session? 0 = w.session? 0
  authentications : w'.authentications = w.authentications
  log : w'.log = w.log
  managers : w'.managers = w.managers ++ [{ link := 0, nonce := .ok w.nonce }]
  mailboxes : w'.mailboxes = w.mailboxes ++ [({} : Mailbox), ({} : Mailbox)]
  received : w'.registry (.link 0 .received) = ((w.registry (.link 0 .received)).add
    (.mailbox w.mailboxes.length)).add (.manager w.managers.length)

theorem Reserved.furnished (h : w.Reserved) (k : Nat) : Furnished w (w.furnish k) := by
  obtain ⟨l, hl⟩ := List.length_eq_one_iff.1 h.links
  constructor <;>
    simp [furnish, setLoginPhase, subscribeTo, openMailbox, addListener, newManager, updateRegistry, modifyLink,
      registry, session?, hl, Link.update, Link.registry]

theorem Furnished.content (hf : Furnished w w') (box : Nat) (hbox : w.mailboxes.length ≤ box) :
    w'.content box = [] := by
  rw [World.content, hf.mailboxes, List.getElem?_append_right hbox]
  rcases box - w.mailboxes.length with _ | _ | n <;> rfl

theorem Furnished.reserved (hf : Furnished w w') (h : w.Reserved) : w'.Reserved := by
  refine ⟨hf.link.trans h.link, hf.links.trans h.links, hf.manager.trans h.manager, hf.scripts.trans h.scripts,
    hf.session ▸ h.session, hf.authentications ▸ h.authentications, hf.received ▸ (h.numbered.add _).add _,
    fun i hi => ?_⟩
  rw [hf.received, Registry.toList_add, Registry.toList_add] at hi
  simp only [List.mem_append, List.mem_singleton, reduceCtorEq, or_false, Listener.manager.injEq] at hi
  rw [hf.managers, List.length_append]
  rcases hi with hi | rfl
  · exact Nat.lt_succ_of_lt (h.known i hi)
  · exact Nat.lt_succ_self _

theorem Furnished.number (hf : Furnished w w') (h : w.Reserved) (n : Nat) :
    (n, Listener.manager w.managers.length) ∈ (w'.registry (.link 0 .received)).entries ↔
      n = (w.registry (.link 0 .received)).next + 1 := by
  have hold : (n, Listener.manager w.managers.length) ∉ (w.registry (.link 0 .received)).entries :=
    fun hmem => Nat.lt_irrefl _ (h.known _ (List.mem_map.2 ⟨_, hmem, rfl⟩))
  simp [hf.received, Registry.add, hold]

theorem Furnished.attends (hf : Furnished w w') (h : w.Reserved)
    (halive : ∀ i, w'.managerAlive i → i = w.managers.length) :
    Attends ⟨w.mailboxes.length, w.managers.length, (w.registry (.link 0 .received)).next + 1⟩ none w' where
  toReserved := hf.reserved h
  alive := halive
  linked _ := by simp [hf.managers]
  listed _ := (hf.number h _).2 rfl
  once _ n := (hf.number h n).1
  attempt _ hnone := by cases hnone
  unasked _ := ⟨by simp [attemptOf, hf.managers], fun box => by simp [registry, hf.managers, Registry.toList]⟩
  first := by simp [hf.mailboxes]
  mail box hbox mail hmem := by simp [hf.content box hbox] at hmem

theorem Attends.connect (h : Attends seat none w) (hempty : ∀ box, seat.first ≤ box → w.content box = [])
    {s : Bosh.Session} (hs : w.session? 0 = some s) (hsettings : s.settings.isSome) (hactive : s.active = false)
    (act : Act) (start : Nat) : Attends seat none (w.stepSession act 0 (.connect start)) ∧
      (w.stepSession act 0 (.connect start)).Opened ∧ (w.stepSession act 0 (.connect start)).logins = w.logins ∧
      Silent w (w.stepSession act 0 (.connect start)) := by
  obtain ⟨s', hs', hsound⟩ := h.session
  obtain rfl : s' = s := Option.some.inj (hs'.symm.trans hs)
  have hbegins : s'.begins (.connect start) := by simp [Bosh.Session.begins, hsettings, hactive]
  have hstep := steps_stepSession act hs (i := .connect start) (Bosh.Session.notices_connect ..)
  have hopened : (w.stepSession act 0 (.connect start)).Opened :=
    ⟨_, hstep.session, (Bosh.Session.step_retains w.now _ s').settings hsettings,
      Bosh.Session.stream_isSome_of_begins hbegins w.now, Bosh.Session.noRestart_connect hbegins w.now⟩
  refine ⟨?_, hopened, hstep.keeps.logins, hstep.silent⟩
  refine h.steps (hsound.step w.now _) hstep fun box hbox mail hmem => ?_
  rw [hempty box hbox] at hmem
  cases hmem

theorem enterLogin_eq (act : Act) (k : Nat) (l : Login) (hl : l.link = 0) (w : World) : w.enterLogin act k l =
    match (w.furnish k).connectOn act 0 with
    | (w', .error e) => w'.finishLogin k (.error e)
    | (w', .ok ()) =>
      w'.awaitOffer act k mailBudget l w.mailboxes.length (w.mailboxes.length + 1) w.managers.length := by
  have hstates : (w.subscribeTo (.link 0 .received)).1.mailboxes.length = w.mailboxes.length + 1 := List.length_append
  rw [furnish, seated, ← hstates]
  simp only [enterLogin, hl]
  rfl

theorem Going.enter (h : Going k account .entering seat asked w) (hsilent : Silent w₀ w) (act : Act) :
    Advances k account none w₀ (w.enterLogin act k { link := 0, account, phase := .entering }) := by
  obtain ⟨-, s, hs, hactive, hsid⟩ := h.fits
  have hf := h.attends.furnished k
  have halone : Alone k { link := 0, account, phase := w.seated } (w.furnish k) :=
    (h.alone.setPhase w.seated).of_logins rfl
  rw [enterLogin_eq act k _ rfl w]
  have hattends := hf.attends h.attends.toReserved fun i hi => by
    rw [halone.managerAlive (hf.reserved h.attends.toReserved)] at hi
    simpa [Login.manager?, seated, eq_comm] using hi
  have hsilent₁ := hsilent.trans (.of_log hf.log)
  have hempty := hf.content
  have hs₁ := hf.session.trans hs
  have hboxes : w.mailboxes.length ≤ w.mailboxes.length + 1 := Nat.le_succ _
  have hfits : ∀ {w' : World}, w'.Opened →
      Fits ⟨w.mailboxes.length, w.managers.length, (w.registry (.link 0 .received)).next + 1⟩ none w' w.seated :=
    fun hopened => ⟨rfl, rfl, Nat.le_refl _, hboxes, hopened⟩
  generalize w.furnish k = w₁ at halone hattends hsilent₁ hempty hs₁ ⊢
  have hinactive : w₁.isActive 0 = false := by simp [isActive, hs₁, hactive]
  simp only [connectOn, hs₁, Option.bind_some, Bosh.Session.connectError?, hinactive, Bool.false_eq_true, if_false]
  cases hsettings : s.settings with
  | none => exact hattends.gone halone hsilent₁ ⟨s, hs₁, hactive, hsid⟩ fun _ heq => by cases heq
  | some settings =>
    simp only [Option.isNone_some, Bool.false_eq_true, if_false]
    have hcounted : Comes _ none w₁ { w₁ with sessions := w₁.sessions + 1 } := (Comes.refl hattends).wait rfl rfl rfl
    have hset : s.settings.isSome := by
      rw [hsettings]
      rfl
    obtain ⟨hconnected, hopened, hlogins, hsilent₂⟩ :=
      hcounted.attends.connect hempty hs₁ hset hactive act (w₁.starts (w₁.sessions + 1))
    have hgoing : Going k account w.seated _ none _ := ⟨hconnected, halone.of_logins hlogins, hfits hopened⟩
    exact hgoing.awaitOffer ((hsilent₁.trans (.of_log rfl)).trans hsilent₂) act mailBudget _

/-- **A login goes on.** -/
theorem Going.resume (h : Going k account phase seat asked w) (hsilent : Silent w₀ w) (act : Act) :
    Advances k account asked w₀ (w.resumeLogin act k) := by
  simp only [resumeLogin, h.alone.own]
  cases phase with
  | entering =>
    obtain ⟨rfl, -⟩ := h.fits
    exact h.enter hsilent act
  | waiting stanzas states manager =>
    obtain ⟨rfl, -⟩ := h.fits
    exact h.awaitOffer hsilent act mailBudget _
  | offered stanzas states manager mechanisms =>
    obtain ⟨rfl, -⟩ := h.fits
    exact h.begin hsilent act mailBudget _
  | authenticating stanzas states manager results => exact h.awaitResult hsilent act mailBudget
  | finished => exact h.goes hsilent

end World

end XmppBosh.Client
