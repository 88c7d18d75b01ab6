import XmppBosh.Proofs.Bosh.Writing

/-!
# Settings that are replaced

A client may set settings at any time. A session that goes on looks at its settings again and again, so
that new ones take effect at once.

* `Settings.inUse` : what a session looks at while it goes on;
* `Session.under`, `Outcome.under`, `Traffic.under` : the same under other settings;
* `step_under` : a step under settings that are alike in this does the same; `requests_under` : and so does
  a run;
* `Session.Bare` : an established session that has sent nothing; `Session.Filled` : a session with so many
  requests unanswered;
* `unseen_iff` : settings can be replaced without being seen exactly if they are alike in what is in use.
-/

namespace XmppBosh.Bosh

/-- What a session looks at while it goes on: where requests are posted, the domain that a new stream is
asked of, and how many requests may be unanswered. -/
def Settings.inUse (st : Settings) : String × String × Nat := (st.httpBase, st.hostName, st.maxRequests)

def Session.under (o : Option Settings) (s : Session) : Session := { s with settings := o }

def Outcome.under (o : Option Settings) (r : Outcome) : Outcome := { r with session := r.session.under o }

def Traffic.under (o : Option Settings) (t : Traffic) : Traffic := { t with session := t.session.under o }

namespace Session

variable {s : Session} {o : Option Settings} {i : Input} {now : Nat}

/-! ## Steps under other settings -/

theorem isSome_of_inUse (h : o.map Settings.inUse = s.settings.map Settings.inUse) :
    o.isSome = s.settings.isSome := by
  simpa using congrArg Option.isSome h

theorem maxRequests_under (h : o.map Settings.inUse = s.settings.map Settings.inUse) :
    (s.under o).maxRequests = s.maxRequests := by
  have hmax := congrArg (fun x => (x.map fun y => y.2.2).getD 0) h
  simpa [maxRequests, under, Settings.inUse, Function.comp_def] using hmax

theorem hostName_under (h : o.map Settings.inUse = s.settings.map Settings.inUse) :
    (o.map Settings.hostName).getD "" = (s.settings.map Settings.hostName).getD "" := by
  have hhost := congrArg (fun x => (x.map fun y => y.2.1).getD "") h
  simpa [Settings.inUse, Function.comp_def] using hhost

theorem maySend_under (h : o.map Settings.inUse = s.settings.map Settings.inUse) :
    (s.under o).maySend = s.maySend := by
  rw [maySend, maxRequests_under h]
  rfl

theorem edit_under (f : Body → Body) (o : Option Settings) (s : Session) :
    (s.under o).edit f = (s.edit f).under o := by
  unfold edit under
  dsimp only
  split <;> rfl

theorem transmit_under (h : o.map Settings.inUse = s.settings.map Settings.inUse) (now : Nat)
    (text : String) : (s.under o).transmit now text = (s.transmit now text).under o := by
  cases hs : s.settings with
  | none =>
    have ho : o = none := by simpa [hs] using h
    simp [transmit, under, Outcome.under, hs, ho]
  | some a =>
    obtain ⟨b, rfl, hb⟩ : ∃ b, o = some b ∧ b.inUse = a.inUse := by simpa [hs] using h
    have hbase : b.httpBase = a.httpBase := congrArg Prod.fst hb
    simp only [transmit, under, Outcome.under, hs, hbase]
    rfl

theorem release_under (h : o.map Settings.inUse = s.settings.map Settings.inUse) (now : Nat) :
    (s.under o).release now = (s.release now).under o := by
  cases hp : s.pending with
  | none => rw [release_none hp, release_none (s := s.under o) hp]; rfl
  | some body =>
    simp only [release, hp, show (s.under o).pending = some body from hp]
    exact transmit_under (s := s.cleared) h now body.text

theorem flush_under (h : o.map Settings.inUse = s.settings.map Settings.inUse) (now : Nat) :
    (s.under o).flush now = (s.flush now).under o := by
  rw [flush, flush, maySend_under h, release_under h]
  split <;> rfl

theorem keepOpen_under (h : o.map Settings.inUse = s.settings.map Settings.inUse) (now : Nat) :
    (s.under o).keepOpen now = (s.keepOpen now).under o := by
  have houtstanding : (s.under o).outstanding = s.outstanding := rfl
  have hpending : (s.under o).pending = s.pending := rfl
  cases hs : s.stream with
  | none =>
    have hs' : (s.under o).stream = none := hs
    rw [keepOpen, keepOpen, hs, hs']
    rfl
  | some stream =>
    have hs' : (s.under o).stream = some stream := hs
    simp only [keepOpen, hs, hs', houtstanding, hpending, flush_under h]
    split
    · split <;> rfl
    · rfl

theorem edit_flush_under (h : o.map Settings.inUse = s.settings.map Settings.inUse) (f : Body → Body)
    (now : Nat) : ((s.under o).edit f).flush now = ((s.edit f).flush now).under o := by
  rw [edit_under]
  exact flush_under ((edit_frame f s).settings ▸ h) now

theorem disconnect_under (h : o.map Settings.inUse = s.settings.map Settings.inUse) (now : Nat) :
    (s.under o).disconnect now = (s.disconnect now).under o := by
  have hfarewell : (s.under o).farewell = s.farewell.under o := edit_under _ o s.cleared
  have hrelease := release_under (s := s.farewell) ((farewell_frame s).settings ▸ h) now
  have hstream : (s.under o).stream.isSome = s.stream.isSome := rfl
  rw [disconnect_eq, disconnect_eq, hfarewell, hrelease, hstream]
  cases s.stream.isSome <;> rfl

theorem restart_under (h : o.map Settings.inUse = s.settings.map Settings.inUse) :
    (s.under o).restart = s.restart.under o := by
  rw [restart, restart, ← hostName_under h]
  exact edit_under _ o s

theorem pause_under (h : o.map Settings.inUse = s.settings.map Settings.inUse) (now : Nat) :
    (s.under o).pause now = (s.pause now).under o := by
  have hmax : (s.under o).maxPause? = s.maxPause? := rfl
  rw [pause, pause, hmax]
  cases s.maxPause? with
  | none => rfl
  | some seconds =>
    dsimp only
    rw [edit_under]
    exact release_under ((edit_frame _ s).settings ▸ h) now

theorem connect_under {start : Nat} (h : o.map Settings.inUse = s.settings.map Settings.inUse)
    (hb : s.begins (.connect start) = false) (now : Nat) :
    (s.under o).connect now start = (s.connect now start).under o := by
  cases hs : s.settings with
  | none =>
    have ho : o = none := by simpa [hs] using h
    simp [connect, under, Outcome.under, hs, ho]
  | some a =>
    obtain ⟨b, rfl, -⟩ : ∃ b, o = some b ∧ b.inUse = a.inUse := by simpa [hs] using h
    have ha : s.active := by simpa [begins, hs] using hb
    simp [connect, under, Outcome.under, hs, ha]

theorem giveUp_under (h : o.map Settings.inUse = s.settings.map Settings.inUse) (now : Nat)
    (reason : String) : (s.under o).giveUp now reason = (s.giveUp now reason).under o := by
  have hlast := disconnect_under (s := { s with outstanding := s.outstanding - 1 }) h now
  unfold giveUp
  exact congrArg (fun last : Outcome => { last with notices := .error reason :: last.notices }) hlast

theorem answer_under (h : o.map Settings.inUse = s.settings.map Settings.inUse) (now : Nat)
    (request : String) (r : Reply) :
    (s.under o).answer now request r = (s.answer now request r).under o := by
  cases ha : s.active with
  | false => rw [answer_inactive ha, answer_inactive (s := s.under o) ha]; rfl
  | true =>
    cases hr : r.reading with
    | body body => rw [answer_body ha hr, answer_body (s := s.under o) ha hr]; rfl
    | gone content =>
      rw [answer_gone ha hr, answer_gone (s := s.under o) ha hr]
      exact giveUp_under h now _
    | bad reason =>
      have hx : (s.under o).isExhausted = s.isExhausted := rfl
      rw [answer_bad ha hr, answer_bad (s := s.under o) ha hr, fail_eq ha, fail_eq (s := s.under o) ha, hx]
      split
      · exact giveUp_under (s := s.failed request) h now _
      · rfl

theorem openBody_under (o : Option Settings) (body : Xml.Element) (s : Session) :
    (s.under o).openBody body = (s.openBody body).under o := by
  have ho := opened body s
  generalize hout : s.openBody body = out at ho
  cases ho with
  | ignored ha => exact openBody_inactive (s := s.under o) ha body
  | terminal ha ht => exact openBody_terminal (s := s.under o) ha ht
  | establish ha ht stream hst hn => exact openBody_establish (s := s.under o) ha ht hst hn
  | further ha ht hset => exact openBody_further (s := s.under o) ha ht hset

theorem fire_under (h : o.map Settings.inUse = s.settings.map Settings.inUse) (now : Nat) (a : Alarm) :
    (s.under o).fire now a = (s.fire now a).under o := by
  cases a with
  | retry request sid =>
    have htransmit := transmit_under (s := { s with outstanding := s.outstanding - 1 }) h now request
    have hactive : (s.under o).active = s.active := rfl
    have hstream : (s.under o).stream = s.stream := rfl
    simp only [fire, hactive, hstream]
    split
    · exact htransmit
    · rfl
  | continuation rid =>
    have hidle : (s.under o).isIdle rid = s.isIdle rid := rfl
    simp only [fire, hidle]
    split
    · exact edit_flush_under h id now
    · rfl
  | heartbeat period =>
    have hactive : (s.under o).active = s.active := rfl
    have hretrying : (s.under o).retrying = s.retrying := rfl
    simp only [fire, hactive, hretrying]
    split
    · exact keepOpen_under h now
    · rfl

/-- **A step that begins no session** does the same under settings that are alike in what is in use, and
leaves them alike. -/
theorem step_under (h : o.map Settings.inUse = s.settings.map Settings.inUse) (hb : s.begins i = false)
    (now : Nat) :
    ∃ o', (s.under o).step now i = (s.step now i).under o' ∧
      o'.map Settings.inUse = (s.step now i).session.settings.map Settings.inUse := by
  by_cases hi : ∃ st, i = .setSettings st
  · obtain ⟨st, rfl⟩ := hi
    exact ⟨some st, rfl, rfl⟩
  · refine ⟨o, ?_, settings_step (fun st heq => hi ⟨st, heq⟩) now s ▸ h⟩
    cases i with
    | connect start => exact connect_under h hb now
    | disconnect => exact disconnect_under h now
    | send stanza => exact edit_flush_under h _ now
    | flush => exact flush_under h now
    | restart => exact congrArg (fun s => (⟨s, [], []⟩ : Outcome)) (restart_under h)
    | pause => exact pause_under h now
    | resume stream => cases hb
    | setSettings st => exact absurd ⟨st, rfl⟩ hi
    | setTimings timings => rfl
    | answer request r => exact answer_under h now request r
    | openBody body => exact openBody_under o body s
    | closeBody => exact keepOpen_under (s := { s with dispatching := s.dispatching - 1 }) h now
    | fire alarm => exact fire_under h now alarm

end Session

namespace Traffic

open Session

variable {t : Traffic} {o : Option Settings} {m : Move} {i : Input} {now : Nat}

/-! ## Runs under other settings -/

theorem input?_under (m : Move) (o : Option Settings) (t : Traffic) :
    (t.under o).input? m = t.input? m := by
  cases m <;> rfl

theorem consume_under (m : Move) (o : Option Settings) (t : Traffic) :
    (t.under o).consume m = (t.consume m).under o := by
  cases m <;> rfl

/-- **A run without another session** hands over the same under settings that are alike in what is in
use. -/
theorem requests_under (h : o.map Settings.inUse = t.session.settings.map Settings.inUse)
    {later : List (Nat × Move)} (hu : ∀ g ∈ stages later t, g.before.begins g.input = false) :
    requests (stages later (t.under o)) = requests (stages later t) := by
  induction later generalizing t o with
  | nil => rfl
  | cons x later ih =>
    obtain ⟨now, m⟩ := x
    rw [stages, List.forall_mem_append] at hu
    obtain ⟨hg, hu⟩ := hu
    rw [stages, stages, requests_append, requests_append, input?_under]
    cases hi : t.input? m with
    | none =>
      rw [step_none hi] at hu ⊢
      rw [step_none ((input?_under m o t).trans hi), ih h hu]
      rfl
    | some i =>
      have hb : t.session.begins i = false := hg ⟨t.session, now, i⟩ (by simp [hi])
      obtain ⟨o', hstep, ho'⟩ := step_under h hb now
      have hb' : (t.under o).session.begins i = false := by
        cases i with
        | connect start =>
          rw [← hb]
          exact congrArg (· && !t.session.active) (isSome_of_inUse h)
        | resume stream => cases hb
        | _ => rfl
      have hact : ((t.under o).consume m).act now i = ((t.consume m).act now i).under o' := by
        rw [act_consume hb', act_consume hb, consume_under]
        show deliver now t.count ((t.session.under o).step now i) _ = _
        rw [hstep]
        rfl
      rw [step_some hi] at hu ⊢
      rw [step_some ((input?_under m o t).trans hi), hact, ih (session_act m now i t ▸ ho') hu]
      congr 1
      show ((t.session.under o).step now i).posts ++ [] = (t.session.step now i).posts ++ []
      rw [hstep]
      rfl

theorem step_setSettings (now : Nat) (b : Settings) (t : Traffic) :
    t.step now (.call (.setSettings b)) = t.under (some b) := by
  rw [step_some (i := .setSettings b) rfl, act_consume rfl]
  exact congrArg₂ (fun unanswered armed => { t.under (some b) with unanswered, armed })
    (List.append_nil _) (List.append_nil _)

/-! ## Settings that are seen -/

theorem requests_call (hi : i.isCall) (now : Nat) (t : Traffic) :
    requests (stages [(now, .call i)] t) = (t.session.step now i).posts := by
  simp [requests, stages, input?, hi, Stage.outcome]

end Traffic

namespace Session

variable {s : Session} {st : Settings} {k : Nat}

/-- A session with so many requests unanswered, and nothing else to do. -/
structure Filled (k : Nat) (s : Session) : Prop where
  active : s.active
  pending : s.pending = none
  outstanding : s.outstanding = k
  retrying : s.retrying = []
  dispatching : s.dispatching = 0

theorem Filled.send (h : Filled k s) (hs : s.settings = some st) (now : Nat) (stanza : Xml.Element) :
    (s.send now stanza).posts.length = (if k < st.maxRequests then 1 else 0) ∧
      (k < st.maxRequests → Filled (k + 1) (s.send now stanza).session ∧
        (s.send now stanza).session.settings = some st) := by
  have hedit := edit_frame (Body.push stanza) s
  have hset : (s.edit (Body.push stanza)).settings = some st := hedit.settings.trans hs
  have hm : (s.edit (Body.push stanza)).maySend = decide (k < st.maxRequests) := by
    rw [maySend_edit, maySend, h.active, h.outstanding, h.retrying, h.dispatching]
    simp [maxRequests, hs]
  rw [Session.send, flush, hm]
  by_cases hk : k < st.maxRequests
  · simp only [hk, decide_true, if_true, forall_const]
    rw [release_eq hset (pending_edit _ s)]
    have houtstanding : (s.edit (Body.push stanza)).outstanding = k :=
      (outstanding_edit _ s).trans h.outstanding
    refine ⟨rfl, ⟨hedit.active.trans h.active, rfl, congrArg (· + 1) houtstanding,
      hedit.retrying.trans h.retrying, hedit.dispatching.trans h.dispatching⟩, hset⟩
  · simp [hk]

end Session

namespace Traffic

open Session

/-- A stream that has been put aside, and may be again. -/
def shelved : Stream := { sid := some "", rid := 0, maxPause := some 1 }

/-- A client with these settings has taken it up. -/
def taken (o : Option Settings) : Traffic := (start o {}).run [(0, .call (.resume shelved))]

theorem filled_run (st : Settings) (stanza : Xml.Element) {k : Nat} (hk : k ≤ st.maxRequests) :
    Filled k ((taken (some st)).run (List.replicate k (0, .call (.send stanza)))).session ∧
      ((taken (some st)).run (List.replicate k (0, .call (.send stanza)))).session.settings = some st := by
  induction k with
  | zero => exact ⟨⟨rfl, rfl, rfl, rfl, rfl⟩, rfl⟩
  | succ k ih =>
    obtain ⟨hfilled, hs⟩ := ih (by omega)
    rw [List.replicate_succ', run_append, run_cons, run_nil, step_some (i := .send stanza) rfl, session_act]
    exact (hfilled.send hs 0 stanza).2 hk

/-- Settings can be replaced in a session that goes on without its requests telling. -/
def Unseen (o : Option Settings) (b : Settings) : Prop :=
  ∀ (settings : Option Settings) (timings : Timings) (ms later : List (Nat × Move)) (now : Nat),
    let t := (start settings timings).run ms
    t.session.settings = o → t.session.active →
    (∀ g ∈ stages later t, g.before.begins g.input = false) →
    requests (stages later (t.step now (.call (.setSettings b)))) = requests (stages later t)

variable {a b : Settings}

/-- The last body tells where it goes; without settings it goes nowhere. -/
theorem Unseen.httpBase (h : Unseen o b) : ∃ a, o = some a ∧ b.httpBase = a.httpBase := by
  have hsame := h o {} [(0, .call (.resume shelved))] [(0, .call .disconnect)] 0 rfl rfl
    (by simp [stages, input?, Input.isCall, begins])
  rw [step_setSettings, requests_call rfl, requests_call rfl] at hsame
  have haddress := congrArg (List.map Request.address) hsame
  cases o with
  | none => cases (show [b.httpBase] = [] from haddress)
  | some a => exact ⟨a, rfl, (List.cons.inj (show [b.httpBase] = [a.httpBase] from haddress)).1⟩

/-- The body that asks for a new stream tells of which domain. -/
theorem Unseen.hostName (h : Unseen (some a) b) : b.hostName = a.hostName := by
  have hsame := h (some a) {} [(0, .call (.resume shelved))] [(0, .call .restart), (0, .call .pause)] 0
    rfl rfl (by simp [stages, input?, Input.isCall, begins])
  rw [step_setSettings] at hsame
  -- The request for a new stream goes out when the session is put aside.
  let body (st : Settings) : Body := ((Body.numbered 1 (some "")).restart st.hostName).set "pause" "1"
  have htext : (body b).text = (body a).text :=
    (List.cons.inj (show [(body b).text] = [(body a).text] from congrArg (List.map Request.text) hsame)).1
  have hplain (st : Settings) : (body st).Plain :=
    ((Body.plain_numbered 1 (some "")).restart st.hostName).set (by decide) "1"
  have hto : (body b).attr? "to" = (body a).attr? "to" := by
    rw [Body.attr?, Body.attr?, Body.attributes_of_text (hplain b) (hplain a) htext]
  simpa [body, Body.restart] using hto

/-- How many stanzas go out at once tells how many may. -/
theorem Unseen.maxRequests (h : Unseen (some a) b) : b.maxRequests = a.maxRequests := by
  let stanza : Xml.Element := { tag := { name := "message", ns := "jabber:client" } }
  have hsame {k : Nat} (hk : k ≤ a.maxRequests) : k < b.maxRequests ↔ k < a.maxRequests := by
    obtain ⟨hfilled, hs⟩ := filled_run a stanza hk
    have hsame := h (some a) {} ((0, .call (.resume shelved)) :: List.replicate k (0, .call (.send stanza)))
      [(0, .call (.send stanza))] 0 hs hfilled.active (by simp [stages, input?, Input.isCall, begins])
    rw [step_setSettings, requests_call rfl, requests_call rfl] at hsame
    have hunder : Filled k (((taken (some a)).run (List.replicate k (0, .call (.send stanza)))).under
        (some b)).session :=
      ⟨hfilled.active, hfilled.pending, hfilled.outstanding, hfilled.retrying, hfilled.dispatching⟩
    have hlength : (if k < b.maxRequests then 1 else 0) = if k < a.maxRequests then 1 else 0 := by
      rw [← (hfilled.send hs 0 stanza).1, ← (hunder.send rfl 0 stanza).1]
      exact congrArg List.length hsame
    split at hlength <;> split at hlength <;> omega
  rcases Nat.lt_trichotomy b.maxRequests a.maxRequests with hlt | heq | hlt
  · exact absurd ((hsame (Nat.le_of_lt hlt)).2 hlt) (Nat.lt_irrefl _)
  · exact heq
  · exact absurd ((hsame (Nat.le_refl _)).1 hlt) (Nat.lt_irrefl _)

/-- **Settings that are replaced** in a session that goes on are seen at once: its requests tell, in some
run or other, exactly if there were none before, or they differ in where requests are posted, in the domain
that a new stream is asked of, or in how many requests may be unanswered. -/
theorem unseen_iff (o : Option Settings) (b : Settings) :
    Unseen o b ↔ o.map Settings.inUse = some b.inUse := by
  constructor
  · intro h
    obtain ⟨a, rfl, hbase⟩ := h.httpBase
    rw [Option.map_some, Settings.inUse, Settings.inUse, hbase, h.hostName, h.maxRequests]
  · intro h settings timings ms later now t hs _ hu
    rw [step_setSettings]
    exact requests_under (by rw [hs, h]; rfl) hu

/-- New settings are set in an established session, and its next request is posted where they say. -/
theorem seen_of_other_address :
    let a : Settings := { httpBase := "http://localhost/", hostName := "localhost" }
    let b : Settings := { a with httpBase := "http://elsewhere/" }
    let stanza : Xml.Element := { tag := { name := "message", ns := "jabber:client" } }
    let content := "<body xmlns='http://jabber.org/protocol/httpbind' sid='s'/>"
    let t := (start (some a) {}).run [(0, .call (.connect 0)), (0, .reply 0 (.response 200 content)),
      (0, .openBody 0), (0, .closeBody 0)]
    let later : List (Nat × Move) := [(0, .call (.send stanza))]
    t.session.active ∧ (requests (stages later t)).map Request.address = ["http://localhost/"] ∧
      (requests (stages later (t.step 0 (.call (.setSettings b))))).map Request.address =
        ["http://elsewhere/"] ∧ ¬ Unseen (some a) b := by
  intro a b stanza content t later
  have hrun : t.session.active ∧ (requests (stages later t)).map Request.address = ["http://localhost/"] ∧
      (requests (stages later (t.step 0 (.call (.setSettings b))))).map Request.address =
        ["http://elsewhere/"] := by decide +kernel
  obtain ⟨hactive, hbefore, hafter⟩ := hrun
  refine ⟨hactive, hbefore, hafter, fun h => ?_⟩
  have hsame : some a.inUse = some b.inUse := (unseen_iff (some a) b).1 h
  simp [Settings.inUse, a, b] at hsame

end Traffic

end XmppBosh.Bosh
