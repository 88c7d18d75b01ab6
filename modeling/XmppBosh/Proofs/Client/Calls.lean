import XmppBosh.Proofs.Client.Desk

/-!
# Authentications that are waited for

Calls that wait for the result of an authentication share one manager, and with it one attempt.

* `operations` : what some turns ask of the manager;
* `Waits` : a call waits: its mailbox is open and listens, and holds the results since the call's request;
* `Manned` : a desk after some turns, with its calls;
* `Enters`, `Manned.enter` : a call listens for results and asks for an attempt. It waits if its request has begun
  one, and is through otherwise;
* `Manned.finish` : a call is through, and the others go on waiting;
* `Reports`, `Manned.awaitOutcome` : a call that waits looks for its result, and reports it.
-/

namespace XmppBosh.Client

open Sasl (Attempt Operation Result)
open Sasl.Negotiation (operate attemptAfter begins results)

namespace World

variable {act : Act} {w w' w'' : World} {box : Nat} {a : Option Attempt} {o : Operation}

/-! ## Calls -/

def operations : List Turn → World → List Operation
  | [], _ => []
  | t :: ts, w => (w.operation? t).toList ++ operations ts (w.turn t)

theorem operations_append (ts us : List Turn) (w : World) :
    operations (ts ++ us) w = operations ts w ++ operations us (w.after ts) := by
  induction ts generalizing w with
  | nil => rfl
  | cons t ts ih => rw [List.cons_append, operations, ih, operations, after_cons, List.append_assoc]

theorem operations_concat (ts : List Turn) (t : Turn) (w : World) :
    operations (ts ++ [t]) w = operations ts w ++ ((w.after ts).operation? t).toList := by
  rw [operations_append, operations, operations, List.append_nil]

def Entered (w₀ : World) (ts before : List Turn) (id : Nat) (a : Authentication) : Prop :=
  (∃ after, ts = before ++ .task :: after) ∧ (w₀.after before).entering? = some (id, a) ∧
    ∃ o, (w₀.after before).asking? a.account a.mechanisms = some o ∧ begins o

/-- A call waits for a result: its mailbox is open and listens, and holds the results since the call's request. -/
structure Waits (w₀ : World) (ts : List Turn) (id box : Nat) (before : List Turn) (a : Authentication) : Prop where
  entered : Entered w₀ ts before id a
  present : (w₀.after ts).present (.mailbox box)
  listens : (w₀.after ts).listens box = 1
  content : ∃ new, results (operations ts w₀) = results (operations (before ++ [.task]) w₀) ++ new ∧
    (w₀.after ts).content box = new.map .result

def Awaits (id box : Nat) (w : World) : Prop :=
  ∃ a, w.authentications[id]? = some a ∧ a.phase = .waiting box

structure Manned (w₀ : World) (ts : List Turn) : Prop where
  desk : (w₀.after ts).Desk
  attempt : (w₀.after ts).attempt = attemptAfter (operations ts w₀)
  /-- All calls are to the one manager. -/
  own : ∀ a ∈ (w₀.after ts).authentications, a.manager = 0
  waits : ∀ id box, (w₀.after ts).Awaits id box → ∃ before a, Waits w₀ ts id box before a
  distinct : ∀ i j box, (w₀.after ts).Awaits i box → (w₀.after ts).Awaits j box → i = j

variable {w₀ : World} {ts before : List Turn} {t : Turn} {id : Nat} {call : Authentication}

theorem Entered.concat (h : Entered w₀ ts before id call) (t : Turn) : Entered w₀ (ts ++ [t]) before id call := by
  obtain ⟨⟨after, rfl⟩, hentering, hasking⟩ := h
  exact ⟨⟨after ++ [t], by simp⟩, hentering, hasking⟩

theorem Waits.concat (h : Waits w₀ ts id box before call) {rs : List Result}
    (hresults : results (operations (ts ++ [t]) w₀) = results (operations ts w₀) ++ rs)
    (hgets : Gets box rs (w₀.after ts) (w₀.after (ts ++ [t]))) : Waits w₀ (ts ++ [t]) id box before call := by
  obtain ⟨new, hnew, hbox⟩ := h.content
  refine ⟨h.entered.concat t, hgets.present h.present, (hgets.listens h.present).trans h.listens, new ++ rs, ?_, ?_⟩
  · rw [hresults, hnew, List.append_assoc]
  · rw [hgets.content h.present h.listens, hbox, List.map_append]

theorem Manned.results_turn (hm : Manned w₀ ts) {o : Option Operation} (ho : (w₀.after ts).operation? t = o) :
    results (operations (ts ++ [t]) w₀) = results (operations ts w₀) ++
      (o.bind fun o => (operate o (w₀.after ts).attempt).result).toList := by
  rw [operations_concat, ho, hm.attempt]
  cases o with
  | none => simp
  | some o => exact Sasl.Negotiation.results_concat _ o

theorem Manned.attempt_turn (hm : Manned w₀ ts) {o : Option Operation} (ho : (w₀.after ts).operation? t = o)
    (hw' : w'.attempt = o.elim (w₀.after ts).attempt fun o => (operate o (w₀.after ts).attempt).attempt) :
    w'.attempt = attemptAfter (operations (ts ++ [t]) w₀) := by
  rw [operations_concat, ho, hw', hm.attempt]
  cases o with
  | none => simp
  | some o => exact (Sasl.Negotiation.attemptAfter_concat _ o).symm

/-- The manager goes on with what a turn asks of it. Calls that have been waiting and still are go on waiting. -/
theorem Manned.turn (hm : Manned w₀ ts) {o : Option Operation} (ho : (w₀.after ts).operation? t = o)
    (hturn : (w₀.after ts).turn t = w') (hdesk : w'.Desk)
    (hattempt : w'.attempt = o.elim (w₀.after ts).attempt fun o => (operate o (w₀.after ts).attempt).attempt)
    (hown : ∀ a ∈ w'.authentications, a.manager = 0)
    (hgets : ∀ id box, (w₀.after ts).Awaits id box → w'.Awaits id box →
      Gets box (o.bind fun o => (operate o (w₀.after ts).attempt).result).toList (w₀.after ts) w')
    (hnew : ∀ id box, w'.Awaits id box →
      (w₀.after ts).Awaits id box ∨ ∃ before a, Waits w₀ (ts ++ [t]) id box before a)
    (hdistinct : ∀ i j box, w'.Awaits i box → w'.Awaits j box → i = j) : Manned w₀ (ts ++ [t]) := by
  have hafter : w₀.after (ts ++ [t]) = w' := (after_concat ..).trans hturn
  refine ⟨hafter ▸ hdesk, hafter ▸ hm.attempt_turn ho hattempt, hafter ▸ hown, ?_, hafter ▸ hdistinct⟩
  rw [hafter]
  intro id box hw
  rcases hnew id box hw with hold | hnew
  · obtain ⟨before, a, hwaits⟩ := hm.waits id box hold
    exact ⟨before, a, hwaits.concat (hm.results_turn ho) (hafter ▸ hgets id box hold hw)⟩
  · exact hnew

/-- The manager goes on with what a turn asks of it, and nothing else changes. -/
theorem Manned.turn_of_takes (hm : Manned w₀ ts) {o : Option Operation} (ho : (w₀.after ts).operation? t = o)
    (ht : Takes o (w₀.after ts) ((w₀.after ts).turn t)) : Manned w₀ (ts ++ [t]) := by
  have hawaits : ∀ id box, ((w₀.after ts).turn t).Awaits id box → (w₀.after ts).Awaits id box := by
    intro id box
    rw [Awaits, ht.authentications]
    exact fun h => h
  refine hm.turn ho rfl ht.desk ht.attempt (ht.authentications ▸ hm.own) (fun _ box _ _ => ht.gets box)
    (fun id box hw => .inl (hawaits id box hw)) ?_
  exact fun i j box hi hj => hm.distinct i j box (hawaits i box hi) (hawaits j box hj)

/-! ## Mailboxes -/

theorem present_modifyMailbox_of_ne {b : Nat} (h : b ≠ box) (change : Mailbox → Mailbox) (w : World) :
    (w.modifyMailbox box change).present (.mailbox b) = w.present (.mailbox b) := by
  simp [World.present, modifyMailbox, h.symm]

theorem content_modifyMailbox_of_ne {b : Nat} (h : b ≠ box) (change : Mailbox → Mailbox) (w : World) :
    (w.modifyMailbox box change).content b = w.content b := by
  simp [World.content, modifyMailbox, h.symm]

theorem Gets.modifyMailbox {b : Nat} (h : b ≠ box) (change : Mailbox → Mailbox) (w : World) :
    Gets b [] w (w.modifyMailbox box change) := by
  refine ⟨fun hp => ?_, fun _ => rfl, fun _ _ => ?_⟩
  · rwa [present_modifyMailbox_of_ne h]
  · rw [content_modifyMailbox_of_ne h]
    exact (List.append_nil _).symm

theorem Gets.await (hempty : w.content box = []) (t : Task) (b : Nat) : Gets b [] w (w.await box t) := by
  by_cases hb : b = box
  · subst hb
    refine ⟨fun hp => ?_, fun _ => rfl, fun _ _ => ?_⟩
    · cases hm : w.mailboxes[b]? with
      | none => simp [World.present, hm] at hp
      | some x => simpa [World.present, World.await, World.modifyMailbox, hm] using hp
    · cases hm : w.mailboxes[b]? <;> simp [World.content, World.await, World.modifyMailbox, hm] at hempty ⊢
      exact hempty
  · exact .modifyMailbox hb _ w

theorem takes_await (hd : w.Desk) (hempty : w.content box = []) (t : Task) : Takes none w (w.await box t) := by
  refine ⟨hd.of_same rfl rfl rfl rfl rfl rfl rfl ?_, rfl, rfl, Gets.await hempty t, rfl⟩
  simp [await, modifyMailbox]

theorem desk_subscribe (hd : w.Desk) {w' : World} (hw' : (w.subscribeTo (.results 0)).1 = w') :
    w'.Desk ∧ w'.attempt = w.attempt ∧
      (∀ account mechanisms, w'.asking? account mechanisms = w.asking? account mechanisms) ∧
      (w'.registry (.results 0)).toList = (w.registry (.results 0)).toList ++ [.mailbox w.mailboxes.length] := by
  obtain ⟨m, hm, hlink⟩ := hd.managed
  have hmanagers : w'.managers = [{ m with results := m.results.add (.mailbox w.mailboxes.length) }] := by
    rw [← hw']
    simp [subscribeTo, openMailbox, addListener, updateRegistry, modifyManager, hm]
  have hregistry : (w'.registry (.results 0)).toList =
      (w.registry (.results 0)).toList ++ [.mailbox w.mailboxes.length] := by
    simp [registry, hmanagers, hm]
  refine ⟨?_, ?_, ?_, hregistry⟩
  · have hfresh : ∀ b, .mailbox b ∈ (w'.registry (.results 0)).toList → b < w'.mailboxes.length := by
      intro b hb
      have hlength : w'.mailboxes.length = w.mailboxes.length + 1 := by
        rw [← hw']
        exact List.length_append
      rw [hregistry, List.mem_append, List.mem_singleton, Listener.mailbox.injEq] at hb
      rw [hlength]
      rcases hb with hb | rfl
      · exact Nat.lt_succ_of_lt (hd.fresh b hb)
      · exact Nat.lt_succ_self _
    subst hw'
    exact ⟨hd.link, hd.manager, ⟨_, hmanagers, hlink⟩, hd.idle, hd.received, hd.sent, hd.scripts, hd.exchanges,
      hd.logins, hfresh⟩
  · simp [attempt, hmanagers, hm]
  · intro account mechanisms
    simp [asking?, hmanagers, hm]

theorem lt_of_present (hp : w.present (.mailbox box)) : box < w.mailboxes.length := by
  by_contra hge
  simp [World.present, List.getElem?_eq_none (Nat.not_lt.1 hge)] at hp

theorem mailboxes_subscribeTo (hub : Hub) (w : World) :
    (w.subscribeTo hub).1.mailboxes = w.mailboxes ++ [({} : Mailbox)] := by
  cases hub <;> rfl

theorem Gets.subscribe (hd : w.Desk) (b : Nat) : Gets b [] w (w.subscribeTo (.results 0)).1 := by
  obtain ⟨-, -, -, hregistry⟩ := desk_subscribe hd rfl
  refine ⟨fun hp => ?_, fun hp => ?_, fun hp _ => ?_⟩
  · rw [World.present, mailboxes_subscribeTo, List.getElem?_append_left (lt_of_present hp)]
    exact hp
  · have hne : w.mailboxes.length ≠ b := (Nat.ne_of_lt (lt_of_present hp)).symm
    rw [World.listens, hregistry, List.count_append, List.count_singleton]
    simp [hne, World.listens]
  · rw [World.content, mailboxes_subscribeTo, List.getElem?_append_left (lt_of_present hp)]
    exact (List.append_nil _).symm

theorem subscribed (hd : w.Desk) {w' : World} (hw' : (w.subscribeTo (.results 0)).1 = w') :
    w'.present (.mailbox w.mailboxes.length) ∧ w'.listens w.mailboxes.length = 1 ∧
      w'.content w.mailboxes.length = [] := by
  obtain ⟨-, -, -, hregistry⟩ := desk_subscribe hd hw'
  have hmailboxes : w'.mailboxes = w.mailboxes ++ [({} : Mailbox)] := hw' ▸ mailboxes_subscribeTo _ w
  have hnew : (w.registry (.results 0)).toList.count (.mailbox w.mailboxes.length) = 0 := by
    rw [List.count_eq_zero]
    exact fun hmem => absurd (hd.fresh _ hmem) (Nat.lt_irrefl _)
  refine ⟨?_, ?_, ?_⟩
  · simp [World.present, hmailboxes]
  · rw [World.listens, hregistry, List.count_append, hnew, List.count_singleton_self]
  · simp [World.content, hmailboxes]

/-! ## Entering -/

theorem awaits_setAuthenticationPhase (id : Nat) (phase : AuthenticationPhase) (w : World) (i box : Nat) :
    (w.setAuthenticationPhase id phase).Awaits i box ↔
      if i = id then (w.authentications[id]?).isSome ∧ phase = .waiting box else w.Awaits i box := by
  by_cases hi : i = id
  · subst hi
    cases ha : w.authentications[i]? <;> simp [Awaits, setAuthenticationPhase, ha]
  · have hne : ¬ id = i := fun h => hi h.symm
    simp [Awaits, setAuthenticationPhase, hi, hne]

theorem own_setAuthenticationPhase (h : ∀ a ∈ w.authentications, a.manager = 0) (id : Nat)
    (phase : AuthenticationPhase) : ∀ a ∈ (w.setAuthenticationPhase id phase).authentications, a.manager = 0 := by
  intro a ha
  obtain ⟨i, hi⟩ := List.mem_iff_getElem?.1 ha
  rw [setAuthenticationPhase, List.getElem?_modify] at hi
  obtain ⟨b, hb, rfl⟩ := Option.map_eq_some_iff.1 hi
  have := h b (List.mem_of_getElem? hb)
  split <;> exact this

/-- A call has entered: a mailbox listens for it, and the manager has gone on with its request, if there is one. -/
structure Enters (id box : Nat) (o : Option Operation) (w w' : World) : Prop where
  desk : w'.Desk
  attempt : w'.attempt = o.elim w.attempt fun o => (operate o w.attempt).attempt
  gets : ∀ b, Gets b [] w w'
  present : w'.present (.mailbox box)
  listens : w'.listens box = 1
  content : w'.content box = []
  authentications : w'.authentications = (w.setAuthenticationPhase id (.waiting box)).authentications
  log : w'.log.filterMap Event.jid? = w.log.filterMap Event.jid?

theorem enters_listening (hd : w.Desk) (id : Nat) : Enters id w.mailboxes.length none w
    ((w.subscribeTo (.results 0)).1.setAuthenticationPhase id (.waiting w.mailboxes.length)) := by
  obtain ⟨hdesk, hattempt, -, -⟩ := desk_subscribe hd rfl
  obtain ⟨hpresent, hlistens, hcontent⟩ := subscribed hd rfl
  exact ⟨hdesk.of_same rfl rfl rfl rfl rfl rfl rfl rfl, hattempt,
    fun b => (Gets.subscribe hd b).trans (.of_same rfl rfl), hpresent, hlistens, hcontent, rfl, rfl⟩

theorem Enters.takes (h : Enters id box none w w') (ht : Takes (some o) w' w'')
    (hsilent : (operate o w'.attempt).result = none) : Enters id box (some o) w w'' := by
  have hgets : ∀ b, Gets b [] w' w'' := by
    intro b
    have := ht.gets b
    rwa [Option.bind_some, hsilent, Option.toList_none] at this
  refine ⟨ht.desk, ?_, fun b => (h.gets b).trans (hgets b), (hgets _).present h.present,
    ((hgets _).listens h.present).trans h.listens, ?_, ht.authentications.trans h.authentications,
    ht.log.trans h.log⟩
  · have hattempt : w'.attempt = w.attempt := h.attempt
    rw [← hattempt]
    exact ht.attempt
  · rw [(hgets _).content h.present h.listens, h.content]
    rfl

/-- Before a call enters, its task is taken from the queue. -/
theorem Enters.of_takes (h : Enters id box (some o) w' w'') (ht : Takes none w w') :
    Enters id box (some o) w w'' := by
  have hattempt : w'.attempt = w.attempt := ht.attempt
  refine ⟨h.desk, hattempt ▸ h.attempt, fun b => (ht.gets b).trans (h.gets b), h.present, h.listens, h.content, ?_,
    h.log.trans ht.log⟩
  rw [h.authentications, setAuthenticationPhase, setAuthenticationPhase, ht.authentications]

theorem Enters.own {o : Option Operation} (h : Enters id box o w w')
    (hown : ∀ a ∈ w.authentications, a.manager = 0) : ∀ a ∈ w'.authentications, a.manager = 0 := by
  rw [h.authentications]
  exact own_setAuthenticationPhase hown _ _

theorem Enters.found {o : Option Operation} (h : Enters id box o w w') (ha : w.authentications[id]? = some call) :
    w'.authentications[id]? = some { call with phase := .waiting box } := by
  simp [h.authentications, setAuthenticationPhase, ha]

theorem Enters.awaits {o : Option Operation} (h : Enters id box o w w') (ha : w.authentications[id]? = some call)
    (i b : Nat) : w'.Awaits i b ↔ if i = id then box = b else w.Awaits i b := by
  have hset := awaits_setAuthenticationPhase id (.waiting box) w i b
  rw [Awaits, ← h.authentications, ← Awaits] at hset
  rw [hset, ha, Option.isSome_some, AuthenticationPhase.waiting.injEq]
  simp only [true_and]

theorem enterAuthentication_eq (hcall : call.manager = 0) (act : Act) (id : Nat) (w : World) :
    w.enterAuthentication act id call = match
      ((w.subscribeTo (.results 0)).1.setAuthenticationPhase id (.waiting w.mailboxes.length)).authorize act 0
        call.account call.mechanisms with
      | (w', .error e) => w'.finishAuthentication id (.error e)
      | (w', .ok ()) => w'.awaitOutcome id w.mailboxes.length := by
  simp only [enterAuthentication, hcall]
  rfl

theorem enters (hd : w.Desk) (hcall : call.manager = 0) (id : Nat) (act : Act) :
    ∃ o w', ∃ out : Except AuthError Unit, w.asking? call.account call.mechanisms = some o ∧
      Enters id w.mailboxes.length (some o) w w' ∧ (∀ a, (operate o a).result = none) ∧
      (out = .ok () ↔ begins o) ∧ w.enterAuthentication act id call = match out with
        | .error e => w'.finishAuthentication id (.error e)
        | .ok () => w'.awaitOutcome id w.mailboxes.length := by
  have hlistening := enters_listening hd id
  obtain ⟨-, -, hasking, -⟩ := desk_subscribe hd rfl
  have hasking := hasking call.account call.mechanisms
  have hentered := enterAuthentication_eq hcall act id w
  have hsame : ((w.subscribeTo (.results 0)).1.setAuthenticationPhase id (.waiting w.mailboxes.length)).managers =
      (w.subscribeTo (.results 0)).1.managers := rfl
  generalize (w.subscribeTo (.results 0)).1.setAuthenticationPhase id (.waiting w.mailboxes.length) = w₁ at *
  obtain ⟨m, hm, -⟩ := hlistening.desk.managed
  have hget : w₁.managers[0]? = some m := by rw [hm]; rfl
  have hrequest : w.asking? call.account call.mechanisms =
      some (.request call.account call.mechanisms m.nonce) := by
    rw [← hasking, asking?, ← hsame, hget, Option.map_some]
  obtain ⟨htakes, hout⟩ := takes_authorize hlistening.desk act call.account call.mechanisms hget
  refine ⟨_, _, _, hrequest, hlistening.takes htakes (Sasl.Negotiation.result_request ..),
    Sasl.Negotiation.result_request _ _ _, hout, ?_⟩
  rw [hentered]
  generalize w₁.authorize act 0 call.account call.mechanisms = r
  obtain ⟨w₂, e | _⟩ := r <;> rfl

/-! ## The end of a call -/

theorem finishAuthentication_eq (ha : w.authentications[id]? = some call) (hphase : call.phase = .waiting box)
    (out : Except AuthError Jid) : w.finishAuthentication id out =
      ((w.closeMailbox box).setAuthenticationPhase id .finished).note (.authenticated out) := by
  simp only [finishAuthentication, ha, hphase]

theorem desk_finishAuthentication (hd : w.Desk) (ha : w.authentications[id]? = some call)
    (hphase : call.phase = .waiting box) (out : Except AuthError Jid) : (w.finishAuthentication id out).Desk := by
  rw [finishAuthentication_eq ha hphase]
  refine hd.of_same rfl rfl rfl rfl rfl rfl rfl ?_
  simp [note, setAuthenticationPhase, closeMailbox, modifyMailbox]

theorem Gets.finishAuthentication (ha : w.authentications[id]? = some call) (hphase : call.phase = .waiting box)
    (out : Except AuthError Jid) {b : Nat} (hb : b ≠ box) : Gets b [] w (w.finishAuthentication id out) := by
  rw [finishAuthentication_eq ha hphase]
  exact (Gets.modifyMailbox hb _ w).trans (.of_same rfl rfl)

theorem awaits_finishAuthentication (ha : w.authentications[id]? = some call) (hphase : call.phase = .waiting box)
    (out : Except AuthError Jid) (i b : Nat) :
    (w.finishAuthentication id out).Awaits i b ↔ i ≠ id ∧ w.Awaits i b := by
  rw [finishAuthentication_eq ha hphase]
  have hset := awaits_setAuthenticationPhase id .finished (w.closeMailbox box) i b
  by_cases hi : i = id
  · rw [if_pos hi] at hset
    exact hset.trans (by simp [hi])
  · rw [if_neg hi] at hset
    exact hset.trans (by simp [hi, Awaits, closeMailbox, modifyMailbox])

theorem Manned.finish (hm : Manned w₀ ts) {o : Option Operation} (ho : (w₀.after ts).operation? t = o)
    {out : Except AuthError Jid} (hturn : (w₀.after ts).turn t = w.finishAuthentication id out) (hdesk : w.Desk)
    (ha : w.authentications[id]? = some call) (hphase : call.phase = .waiting box)
    (hattempt : w.attempt = o.elim (w₀.after ts).attempt fun o => (operate o (w₀.after ts).attempt).attempt)
    (hown : ∀ a ∈ w.authentications, a.manager = 0)
    (hgets : ∀ b, Gets b (o.bind fun o => (operate o (w₀.after ts).attempt).result).toList (w₀.after ts) w)
    (hawaits : ∀ i b, i ≠ id → w.Awaits i b → (w₀.after ts).Awaits i b)
    (hothers : ∀ i b, i ≠ id → (w₀.after ts).Awaits i b → b ≠ box) : Manned w₀ (ts ++ [t]) := by
  have hfinished : ∀ i b, (w.finishAuthentication id out).Awaits i b → i ≠ id ∧ (w₀.after ts).Awaits i b := by
    intro i b hi
    obtain ⟨hne, hi⟩ := (awaits_finishAuthentication ha hphase out i b).1 hi
    exact ⟨hne, hawaits i b hne hi⟩
  refine hm.turn ho hturn (desk_finishAuthentication hdesk ha hphase out) ?_ ?_ (fun i b hi hi' => ?_)
    (fun i b hi => .inl (hfinished i b hi).2) fun i j b hi hj => ?_
  · rw [finishAuthentication_eq ha hphase]
    exact hattempt
  · rw [finishAuthentication_eq ha hphase]
    exact own_setAuthenticationPhase hown _ _
  · have hne := hothers i b (hfinished i b hi').1 hi
    simpa using (hgets b).trans (Gets.finishAuthentication ha hphase out hne)
  · exact hm.distinct i j b (hfinished i b hi).2 (hfinished j b hj).2

/-! ## Turns of calls -/

theorem Manned.authenticate (hm : Manned w₀ ts) (text : AccountText) (offer : Offer) :
    Manned w₀ (ts ++ [.command (.authenticate text offer)]) ∧
      (w₀.after (ts ++ [.command (.authenticate text offer)])).log = (w₀.after ts).log := by
  have hd := hm.desk
  rw [after_concat]
  generalize hturn : (w₀.after ts).turn (.command (.authenticate text offer)) = w'
  have hsame : w' = w₀.after ts ∨ ∃ account mechanisms queue, w' = { w₀.after ts with
      authentications := (w₀.after ts).authentications ++ [{ manager := 0, account, mechanisms }], queue } := by
    rw [← hturn]
    simp only [World.turn, ask, performWithin, perform, performOnManager, withManager, withLink, withOffer, hd.link,
      hd.manager]
    cases text.account with
    | error e => exact .inl rfl
    | ok account =>
      cases offer.element? with
      | none => exact .inl rfl
      | some mechanisms => exact .inr ⟨account, mechanisms, _, rfl⟩
  rcases hsame with rfl | ⟨account, mechanisms, queue, hw'⟩
  · refine ⟨hm.turn_of_takes (o := none) rfl ?_, rfl⟩
    rw [hturn]
    exact .refl hd
  · have hauthentications : w'.authentications =
        (w₀.after ts).authentications ++ [{ manager := 0, account, mechanisms }] := by rw [hw']
    have hmanagers : w'.managers = (w₀.after ts).managers := by rw [hw']
    have hmailboxes : w'.mailboxes = (w₀.after ts).mailboxes := by rw [hw']
    have hawaits : ∀ id box, w'.Awaits id box → (w₀.after ts).Awaits id box := by
      rintro id box ⟨a, ha, hphase⟩
      rw [hauthentications, List.getElem?_append] at ha
      split at ha
      · exact ⟨a, ha, hphase⟩
      · rw [List.getElem?_singleton] at ha
        split at ha
        · cases ha
          cases hphase
        · cases ha
    refine ⟨hm.turn (o := none) rfl hturn ?_ ?_ ?_ (fun _ _ _ _ => .of_same hmanagers hmailboxes)
      (fun id box hw => .inl (hawaits id box hw)) fun i j box hi hj => ?_, by rw [hw']⟩
    · refine hd.of_same ?_ ?_ ?_ hmanagers ?_ ?_ ?_ (by rw [hmailboxes]) <;> rw [hw']
    · rw [World.attempt, hmanagers]
      rfl
    · rw [hauthentications, List.forall_mem_append, List.forall_mem_singleton]
      exact ⟨hm.own, rfl⟩
    · exact hm.distinct i j box (hawaits i box hi) (hawaits j box hj)

theorem turn_task {t : Task} {rest : List Task} (hqueue : w.queue = t :: rest) :
    w.turn .task = ({ w with queue := rest } : World).runTask t := by
  simp only [World.turn, hqueue]

theorem operation?_task {rest : List Task} {id : Nat} {a : Authentication}
    (hqueue : w.queue = .authentication id :: rest) (ha : w.authentications[id]? = some a)
    (hphase : a.phase ≠ .entering) : w.operation? .task = none := by
  cases hp : a.phase with
  | entering => exact absurd hp hphase
  | waiting | finished => simp [operation?, entering?, hqueue, ha, hp]

theorem Manned.lt_of_awaits (hm : Manned w₀ ts) {i b : Nat} (hi : (w₀.after ts).Awaits i b) :
    b < (w₀.after ts).mailboxes.length := by
  obtain ⟨before, a, hwaits⟩ := hm.waits i b hi
  exact lt_of_present hwaits.present

theorem Manned.await (hm : Manned w₀ ts) (hentering : (w₀.after ts).entering? = some (id, call))
    (ha : (w₀.after ts).authentications[id]? = some call)
    (hasks : (w₀.after ts).asking? call.account call.mechanisms = some o) (hbegins : begins o)
    (hsilent : ∀ a, (operate o a).result = none)
    (henters : Enters id (w₀.after ts).mailboxes.length (some o) (w₀.after ts) w)
    (hturn : (w₀.after ts).turn .task = w.await (w₀.after ts).mailboxes.length (.authentication id)) :
    Manned w₀ (ts ++ [.task]) := by
  have ho : (w₀.after ts).operation? .task = some o := by rw [operation?, hentering, Option.bind_some, hasks]
  have htakes := takes_await henters.desk henters.content (.authentication id)
  have hawaits : ∀ i b, (w.await (w₀.after ts).mailboxes.length (.authentication id)).Awaits i b ↔
      if i = id then (w₀.after ts).mailboxes.length = b else (w₀.after ts).Awaits i b := henters.awaits ha
  have hafter : w₀.after (ts ++ [.task]) = w.await (w₀.after ts).mailboxes.length (.authentication id) :=
    (after_concat ..).trans hturn
  refine hm.turn ho hturn htakes.desk (htakes.attempt.trans henters.attempt) (henters.own hm.own)
    (fun i b _ _ => ?_) (fun i b hi => ?_) (fun i j b hi hj => ?_)
  · rw [Option.bind_some, hsilent]
    simpa using (henters.gets b).trans (htakes.gets b)
  · rw [hawaits] at hi
    by_cases hid : i = id
    · subst hid
      rw [if_pos rfl] at hi
      subst hi
      refine .inr ⟨ts, call, ⟨⟨[], rfl⟩, hentering, o, hasks, hbegins⟩, ?_, ?_, [], (List.append_nil _).symm, ?_⟩
      · rw [hafter]
        exact (htakes.gets _).present henters.present
      · rw [hafter, (htakes.gets _).listens henters.present, henters.listens]
      · rw [hafter, (htakes.gets _).content henters.present henters.listens, henters.content]
        rfl
    · rw [if_neg hid] at hi
      exact .inl hi
  · rw [hawaits] at hi hj
    split at hi <;> split at hj
    · next hi' hj' => rw [hi', hj']
    · exact absurd hi (Nat.ne_of_gt (hm.lt_of_awaits hj))
    · exact absurd hj (Nat.ne_of_gt (hm.lt_of_awaits hi))
    · exact hm.distinct i j b hi hj

/-- A call enters. It waits if its request has begun an attempt, and is through otherwise. -/
theorem Manned.enter (hm : Manned w₀ ts) {rest : List Task}
    (hqueue : (w₀.after ts).queue = .authentication id :: rest)
    (ha : (w₀.after ts).authentications[id]? = some call) (hphase : call.phase = .entering) :
    Manned w₀ (ts ++ [.task]) ∧
      ((w₀.after ts).turn .task).log.filterMap Event.jid? = (w₀.after ts).log.filterMap Event.jid? := by
  have hentering : (w₀.after ts).entering? = some (id, call) := by
    simp [entering?, hqueue, ha, hphase]
  -- The task is taken from the queue.
  have htaken : Takes none (w₀.after ts) { w₀.after ts with queue := rest } :=
    takes_of_same hm.desk rfl rfl rfl rfl rfl rfl rfl rfl rfl rfl
  obtain ⟨o, w, out, hasks, henters, hsilent, hout, hentered⟩ :=
    enters htaken.desk (hm.own call (List.mem_of_getElem? ha)) id (World.act { w₀.after ts with queue := rest })
  have henters := henters.of_takes htaken
  have hturn : (w₀.after ts).turn .task = World.enterAuthentication
      (World.act { w₀.after ts with queue := rest }) id call { w₀.after ts with queue := rest } := by
    rw [turn_task hqueue, runTask, resumeAuthentication]
    simp only [ha, hphase]
  rw [hentered] at hturn
  cases out with
  | error e =>
    refine ⟨hm.finish (o := some o) ?_ hturn henters.desk (henters.found ha) rfl henters.attempt
      (henters.own hm.own) (fun b => ?_) (fun i b hne hi => ?_) fun i b _ hi => Nat.ne_of_lt (hm.lt_of_awaits hi), ?_⟩
    · rw [operation?, hentering, Option.bind_some]
      exact hasks
    · rw [Option.bind_some, hsilent]
      exact henters.gets b
    · rwa [henters.awaits ha, if_neg hne] at hi
    · dsimp only at hturn
      rw [hturn, finishAuthentication_eq (henters.found ha) rfl, note, List.filterMap_append]
      exact (List.append_nil _).trans henters.log
  | ok =>
    have hawait : w.awaitOutcome id (w₀.after ts).mailboxes.length =
        w.await (w₀.after ts).mailboxes.length (.authentication id) := by
      rw [World.awaitOutcome, henters.content]
      rfl
    dsimp only at hturn
    rw [hawait] at hturn
    refine ⟨hm.await hentering ha hasks (hout.1 rfl) hsilent henters hturn, ?_⟩
    rw [hturn]
    exact (takes_await henters.desk henters.content (.authentication id)).log.trans henters.log

theorem firstOutcome?_results (rs : List Result) :
    firstOutcome? (rs.map .result) = rs.head?.map outcome := by
  cases rs <;> rfl

def Reports (w₀ : World) (ts : List Turn) (t : Turn) (jid : Jid) : Prop :=
  ∃ id box before a new, t = .task ∧ (w₀.after ts).queue.head? = some (.authentication id) ∧
    Waits w₀ ts id box before a ∧
    results (operations ts w₀) = results (operations (before ++ [.task]) w₀) ++ .succeeded jid :: new

theorem Manned.awaitOutcome (hm : Manned w₀ ts) {rest : List Task} {box : Nat}
    (hqueue : (w₀.after ts).queue = .authentication id :: rest)
    (ha : (w₀.after ts).authentications[id]? = some call) (hphase : call.phase = .waiting box) :
    Manned w₀ (ts ++ [.task]) ∧
      (((w₀.after ts).turn .task).log.filterMap Event.jid? = (w₀.after ts).log.filterMap Event.jid? ∨
        ∃ jid, ((w₀.after ts).turn .task).log.filterMap Event.jid? =
          (w₀.after ts).log.filterMap Event.jid? ++ [jid] ∧ Reports w₀ ts .task jid) := by
  have ho : (w₀.after ts).operation? .task = none := operation?_task hqueue ha (by simp [hphase])
  obtain ⟨before, a, hwaits⟩ := hm.waits id box ⟨call, ha, hphase⟩
  obtain ⟨new, hnew, hcontent⟩ := hwaits.content
  -- The task is taken from the queue.
  have htaken : Takes none (w₀.after ts) { w₀.after ts with queue := rest } :=
    takes_of_same hm.desk rfl rfl rfl rfl rfl rfl rfl rfl rfl rfl
  have hfirst : firstOutcome? (World.content box { w₀.after ts with queue := rest }) = new.head?.map outcome :=
    (congrArg firstOutcome? hcontent).trans (firstOutcome?_results new)
  have hturn : (w₀.after ts).turn .task = World.awaitOutcome id box { w₀.after ts with queue := rest } := by
    rw [turn_task hqueue, runTask, resumeAuthentication]
    simp only [ha, hphase]
  cases new with
  | nil =>
    simp only [World.awaitOutcome, hfirst, List.head?_nil, Option.map_none] at hturn
    have htakes : Takes none (w₀.after ts) ((w₀.after ts).turn .task) := by
      rw [hturn]
      exact htaken.trans_none (takes_await htaken.desk hcontent _)
    exact ⟨hm.turn_of_takes ho htakes, .inl htakes.log⟩
  | cons result new =>
    simp only [World.awaitOutcome, hfirst, List.head?_cons, Option.map_some] at hturn
    refine ⟨hm.finish ho hturn htaken.desk ha hphase htaken.attempt hm.own htaken.gets (fun _ _ _ hi => hi)
      fun i b hne hi => ?_, ?_⟩
    · rintro rfl
      exact hne (hm.distinct i id b hi ⟨call, ha, hphase⟩)
    · have hlog : ((w₀.after ts).turn .task).log = (w₀.after ts).log ++ [.authenticated (outcome result)] := by
        rw [hturn]
        exact congrArg World.log (finishAuthentication_eq (w := { w₀.after ts with queue := rest }) ha hphase _)
      rw [hlog, List.filterMap_append]
      cases result with
      | succeeded jid =>
        exact .inr ⟨jid, rfl, id, box, before, a, new, rfl, by rw [hqueue]; rfl, hwaits, hnew⟩
      | failed condition => exact .inl (List.append_nil _)
      | error cause => exact .inl (List.append_nil _)

end World

end XmppBosh.Client
