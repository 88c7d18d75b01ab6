import XmppBosh.Proofs.Bosh.Closing
import XmppBosh.Proofs.Client.Recording

/-!
# How a connection looks when its session has ended

A session ends when the client ends it, when the server does not know it any more, when there have been too many
errors, or when the server ends it. Whatever was under way, it all comes to the same.

* `Ended` : a session has ended: what it has handed over, and what recorders have heard;
* `ended_stepSession`, `ended_takeReply` : it ends with a step, or with a body that comes in; `leaves_stepSession` : it
  takes its leave with all that discards what is pending;
* `ends_alike` : in all four ways it ends alike, and it takes its leave unless the server has ended it.
-/

namespace XmppBosh.Client

open Bosh (Session Notice Traffic Body Move)

namespace World

variable {w w' w₀ : World} {link : Nat} {s : Session}

/-- The session of a link has ended: it is not active and has no identifier, and this is pending. These requests
have been handed over, and recorders have heard this on each kind of event. -/
structure Ended (link : Nat) (pending : Option Body) (requests : List Bosh.Request) (heard : Topic → List Mail)
    (w w' : World) : Prop where
  session : ∃ s, w'.session? link = some s ∧ s.active = false ∧ s.sid? = none ∧ s.pending = pending
  exchanges : w'.exchanges = w.exchanges ++ requests.map fun r => { link, text := r.text }
  requests : (w'.log.drop w.log.length).filter Event.isRequest = posted w.exchanges.length requests
  heard : ∀ topic, heardSince (.link link topic) w w' = heard topic

/-- What is heard of changes of state, and of nothing else. -/
def announced (notices : List Notice) (topic : Topic) : List Mail :=
  if topic = .state then notices.map .notice else []

/-- A recorder is the first listener for every kind of event, and listeners do nothing from inside. -/
structure Observed (link : Nat) (w : World) : Prop where
  recorded : ∀ topic, ∃ n, w.Recorded n (.link link topic)
  mute : ∀ topic, Bound (fun _ => False) (w.registry (.link link topic)).toList w

/-! ## Steps that end a session -/

theorem filter_posted (first : Nat) (requests : List Bosh.Request) :
    (posted first requests).filter Event.isRequest = posted first requests := by
  rw [List.filter_eq_self]
  intro e he
  obtain ⟨r, -, rfl⟩ := List.mem_map.1 he
  rfl

theorem heardOn?_posted (hub : Hub) (first : Nat) (requests : List Bosh.Request) :
    (posted first requests).filterMap (Event.heardOn? hub) = [] := by
  rw [List.filterMap_eq_nil_iff]
  intro e he
  obtain ⟨r, -, rfl⟩ := List.mem_map.1 he
  rfl

theorem ended_of_overheard {requests : List Bosh.Request} {heard : Topic → List Mail}
    (hs : w₀.session? link = some s) (hactive : s.active = false) (hsid : s.sid? = none)
    (hexchanges : w₀.exchanges = w.exchanges ++ requests.map fun r => { link, text := r.text })
    (hlog : w₀.log = w.log ++ posted w.exchanges.length requests)
    (htold : ∀ topic, ∃ n, Overheard n (.link link topic) (heard topic) w₀ w') :
    Ended link s.pending requests heard w w' := by
  have hafter : ∀ topic, ∃ events, w'.log.drop w.log.length = posted w.exchanges.length requests ++ events ∧
      Aside events w₀ w' ∧ (∀ e ∈ events, e.isRequest = false) ∧
      events.filterMap (Event.heardOn? (.link link topic)) = heard topic := by
    intro topic
    obtain ⟨n, h⟩ := htold topic
    obtain ⟨events, haside, hevents⟩ := h.aside
    refine ⟨events, ?_, haside, hevents⟩
    rw [haside.log, hlog, List.append_assoc, List.drop_left]
  obtain ⟨events, hdrop, haside, hnone, -⟩ := hafter .state
  refine ⟨⟨s, ?_, hactive, hsid, rfl⟩, ?_, ?_, fun topic => ?_⟩
  · rw [haside.session, hs]
  · rw [haside.exchanges, hexchanges]
  · rw [hdrop, List.filter_append, filter_posted, List.filter_eq_nil_iff.2, List.append_nil]
    exact fun e he => Bool.eq_false_iff.1 (hnone e he)
  · obtain ⟨events, hdrop, -, -, hheard⟩ := hafter topic
    rw [heardSince, hdrop, List.filterMap_append, heardOn?_posted, List.nil_append, hheard]

theorem Observed.of_same (h : Observed link w) (hregistry : ∀ hub, w'.registry hub = w.registry hub)
    (hscripts : w'.scripts = w.scripts) : Observed link w' where
  recorded topic := by
    obtain ⟨n, hn⟩ := h.recorded topic
    exact ⟨n, hn.of_registry (hregistry _)⟩
  mute topic := by
    rw [hregistry, Bound, hscripts]
    exact h.mute topic

theorem Observed.announced (h : Observed link w) (act : Act) (notices : List Notice) (topic : Topic) :
    ∃ n, Overheard n (.link link topic) (announced notices topic) w
      (notices.foldl (fun w n => w.tell act (.link link .state) (.notice n)) w) := by
  obtain ⟨n, hn⟩ := h.recorded topic
  have htold := hn.overheard.tellAll (h.mute .state) act notices
  have hheard : [] ++ (if Hub.link link .state = .link link topic then notices.map Mail.notice else []) =
      World.announced notices topic := by
    cases topic <;> simp [World.announced]
  exact ⟨n, hheard ▸ htold⟩

/-- **A step that ends a session.** -/
theorem ended_stepSession (h : Observed link w) (hs : w.session? link = some s) (act : Act) {i : Bosh.Input}
    (hactive : (s.step w.now i).session.active = false) (hsid : (s.step w.now i).session.sid? = none) :
    Ended link (s.step w.now i).session.pending (s.step w.now i).posts (World.announced (s.step w.now i).notices) w
      (w.stepSession act link i) := by
  rw [stepSession_of_session act hs]
  generalize s.step w.now i = o at hactive hsid
  simp only []
  obtain ⟨queue, heffects⟩ := doEffects_eq link o (w.setSession link o.session)
  have hsession : (w.setSession link o.session).session? link = some o.session := by
    rw [session?_setSession (by simp [hs]), if_pos rfl]
  have hobserved : Observed link (o.effects.foldl (doEffect link) (w.setSession link o.session)) := by
    rw [heffects]
    refine h.of_same (fun hub => ?_) rfl
    rw [← registry_setSession link o.session hub w]
    cases hub <;> rfl
  refine ended_of_overheard ?_ hactive hsid ?_ ?_ (hobserved.announced act o.notices)
  · rw [heffects]
    exact hsession
  · rw [heffects]
    rfl
  · rw [heffects]
    rfl

/-- A body that ends a session is announced as a whole, and then the end of the session is. -/
theorem takeReply_of_terminal (hs : w.session? link = some s) (hactive : s.active) (act : Act) (request : String)
    {reply : Bosh.Reply} {body : Xml.Element} (hreading : reply.reading = .body body)
    (hterminal : Session.isTerminal body)
    (ht : w' = (w.setSession link (s.accept request)).tell act (.link link .response) (.stanza body))
    (hsame : w'.session? link = some (s.accept request)) :
    w.takeReply act link request reply =
      (w'.setSession link (s.accept request).ended).tell act (.link link .state)
        (.notice (.disconnected "disconnected by server")) := by
  have hcarried : s.carried? reply = some body := by
    rw [Session.carried?_eq, if_pos hactive, hreading]
    rfl
  have hanswer : w.stepSession act link (.answer request reply) = w.setSession link (s.accept request) := by
    rw [stepSession_of_session act hs, Session.step, Session.answer_body hactive hreading]
    rfl
  have haccept : (s.accept request).active := hactive
  have hopen : w'.stepSession act link (.openBody body) =
      (w'.setSession link (s.accept request).ended).tell act (.link link .state)
        (.notice (.disconnected "disconnected by server")) := by
    rw [stepSession_of_session act hsame, Session.step, Session.openBody_terminal haccept hterminal]
    rfl
  have hgoes : w'.isActive link := by simp [isActive, hsame, haccept]
  simp only [takeReply, hs, Option.bind_some, hcarried, hanswer, takeBody, ← ht, hgoes, hterminal, if_true, hopen]

/-- **A body that ends a session.** Nothing in it is handed out. -/
theorem ended_takeReply (h : Observed link w) (hs : w.session? link = some s) (hactive : s.active) (act : Act)
    (request : String) {reply : Bosh.Reply} {body : Xml.Element} (hreading : reply.reading = .body body)
    (hterminal : Session.isTerminal body) :
    Ended link s.pending []
      (fun topic => if topic = .response then [.stanza body]
        else World.announced [.disconnected "disconnected by server"] topic) w
      (w.takeReply act link request reply) := by
  have hsession : ∀ t, (w.setSession link t).session? link = some t := by
    intro t
    rw [session?_setSession (by simp [hs]), if_pos rfl]
  have hobserved : ∀ t, Observed link (w.setSession link t) :=
    fun t => h.of_same (fun hub => registry_setSession ..) rfl
  generalize ht : (w.setSession link (s.accept request)).tell act (.link link .response) (.stanza body) = w'
  have hannounced : ∀ topic, ∃ n, Overheard n (.link link topic) (if topic = .response then [.stanza body] else [])
      (w.setSession link (s.accept request)) w' := by
    intro topic
    obtain ⟨n, hn⟩ := (hobserved (s.accept request)).recorded topic
    have htell := hn.overheard.tell ((hobserved _).mute .response) act (.stanza body)
    rw [ht] at htell
    exact ⟨n, by cases topic <;> simpa using htell⟩
  have hsame : w'.session? link = some (s.accept request) := by
    obtain ⟨n, hn⟩ := hannounced .response
    obtain ⟨events, haside, -⟩ := hn.aside
    rw [haside.session, hsession]
  rw [takeReply_of_terminal hs hactive act request hreading hterminal ht.symm hsame]
  refine ended_of_overheard (s := (s.accept request).ended) (hsession _) (Session.active_ended _)
    (Session.sid?_ended _) (List.append_nil _).symm (List.append_nil _).symm fun topic => ?_
  -- What was announced before the session ended is the same for one that has ended.
  obtain ⟨n, hn⟩ := hannounced topic
  have hended := hn.setSession (by rw [hsession]; rfl) (s.accept request).ended
  rw [setSession_setSession] at hended
  have htell := hended.tell ((hobserved _).mute .state) act (.notice (.disconnected "disconnected by server"))
  refine ⟨n, ?_⟩
  cases topic <;> simpa [World.announced] using htell

/-! ## All ends -/

theorem takeReply_of_not_carried (hs : w.session? link = some s) (act : Act) (request : String) {reply : Bosh.Reply}
    (hbody : reply.reading.body? = none) :
    w.takeReply act link request reply = w.stepSession act link (.answer request reply) := by
  have hcarried : s.carried? reply = none := by
    rw [Session.carried?_eq, hbody, ite_self]
  simp only [takeReply, hs, Option.bind_some, hcarried]

/-- **What discards the pending body** of an active session takes its leave for it, and this is announced. -/
theorem leaves_stepSession (h : Observed link w) (hs : w.session? link = some s) (hsettings : s.settings.isSome)
    (hstream : s.stream.isSome) (hactive : s.active) (act : Act) {i : Bosh.Input} (hd : s.discards i)
    {notices : List Notice} (hnotices : (s.step w.now i).notices = notices) :
    ∃ q, q.text = (s.cleared.draft.set "type" "terminate").text ∧
      Ended link none [q] (announced notices) w (w.stepSession act link i) := by
  obtain ⟨q, hposts, htext⟩ := (Session.takesLeave hsettings hstream hactive hd w.now).posts
  obtain ⟨hinactive, hsid, hpending⟩ := Session.ended_of_discards hactive hd w.now
  have hended := ended_stepSession h hs act hinactive hsid
  rw [hposts, hpending, hnotices] at hended
  exact ⟨q, htext.trans (congrArg Body.text (Session.outgoing_of_discards hactive hd)), hended⟩

/-- **A session ends alike in every way.** However a session was reached, if it is active and has settings, and
listeners do nothing from inside, it is not active afterwards and has no identifier.

It takes its leave if the client ends it, if a reply says that the server does not know it, or if there have been too
many errors: nothing is pending, one request goes out, with a last body that has no stanzas and names the session, and
recorders hear of the end, and of the error before it if there was one.

If the server ends it with a body, nothing goes out, recorders hear the body as a whole and of the end, and nothing
in the body is handed out. -/
theorem ends_alike (settings : Option Bosh.Settings) (timings : Bosh.Timings) (ms : List (Nat × Move))
    (hs : w.session? link = some ((Traffic.start settings timings).run ms).session)
    (hsettings : ((Traffic.start settings timings).run ms).session.settings.isSome)
    (hactive : ((Traffic.start settings timings).run ms).session.active) (h : Observed link w) (act : Act) :
    let s := ((Traffic.start settings timings).run ms).session
    let last := s.cleared.draft.set "type" "terminate"
    (last.stanzas = [] ∧ last.isFarewell ∧ last.attr? "sid" = s.sid?) ∧
      (∃ q, q.text = last.text ∧
        Ended link none [q] (announced [.disconnected "logged out"]) w (w.stepSession act link .disconnect)) ∧
      (∀ request content, ∃ q, q.text = last.text ∧
        Ended link none [q]
          (announced [.error ("404 Connection Error (session removed ?!) : " ++ content), .disconnected "logged out"]) w
          (w.takeReply act link request (.response 404 content))) ∧
      (∀ request reply reason, reply.reading = .bad reason → s.isExhausted → ∃ q, q.text = last.text ∧
        Ended link none [q] (announced [.error ("Connection error: " ++ reason), .disconnected "logged out"]) w
          (w.takeReply act link request reply)) ∧
      ∀ request reply body, reply.reading = .body body → Session.isTerminal body →
        Ended link s.pending []
          (fun topic => if topic = .response then [.stanza body]
            else announced [.disconnected "disconnected by server"] topic) w
          (w.takeReply act link request reply) := by
  intro s last
  have hstream : s.stream.isSome := Bosh.Traffic.grounded_run settings timings ms hactive
  have hlast : s.outgoing .disconnect = last := Session.outgoing_of_discards hactive rfl
  have hleave := Session.takesLeave (i := .disconnect) hsettings hstream hactive rfl 0
  have hleaves : ∀ {i notices}, s.discards i → (s.step w.now i).notices = notices → ∃ q, q.text = last.text ∧
      Ended link none [q] (announced notices) w (w.stepSession act link i) :=
    fun hd hnotices => leaves_stepSession h hs hsettings hstream hactive act hd hnotices
  refine ⟨⟨hlast ▸ hleave.stanzas, hlast ▸ hleave.farewell, hlast ▸ hleave.sid⟩,
    hleaves rfl (Session.notices_disconnect ..), ?_, ?_, ?_⟩
  · intro request content
    have hreading : Bosh.Reply.reading (.response 404 content) = .gone content := rfl
    rw [takeReply_of_not_carried hs act request (by rw [hreading]; rfl)]
    have hd : s.discards (.answer request (.response 404 content)) := by
      simp [Session.discards, hreading, show s.active from hactive]
    refine hleaves hd ?_
    rw [Session.step, Session.answer_gone hactive hreading, Session.notices_giveUp]
  · intro request reply reason hreading hexhausted
    rw [takeReply_of_not_carried hs act request (by rw [hreading]; rfl)]
    have hd : s.discards (.answer request reply) := by
      simp [Session.discards, hreading, hexhausted, show s.active from hactive]
    refine hleaves hd ?_
    rw [Session.step, Session.answer_bad hactive hreading, Session.fail_eq hactive, if_pos hexhausted,
      Session.notices_giveUp]
  · intro request reply body hreading hterminal
    exact ended_takeReply h hs hactive act request hreading hterminal

theorem observed_newLink (s : Session) (w : World) : Observed w.links.length (w.newLink s) := by
  have hregistry : ∀ topic, (w.newLink s).registry (.link w.links.length topic) = World.recorded := by
    intro topic
    cases topic <;> simp [newLink, adoptLink, registry, Link.registry]
  refine ⟨fun topic => ⟨0, [], ?_, List.forall_mem_nil _⟩, fun topic id hid => ?_⟩
  · rw [hregistry]
    rfl
  · rw [hregistry, World.recorded, Registry.toList_add] at hid
    simp [Registry.toList] at hid

/-- The client ends a session that has its identifier while a stanza is waiting. -/
theorem ends_of_waiting :
    let settings : Bosh.Settings := { httpBase := "http://localhost/", hostName := "localhost" }
    let stanza : Xml.Element := { tag := { name := "message", ns := "jabber:client" } }
    let content := "<body xmlns='http://jabber.org/protocol/httpbind' sid='s'/>"
    let ms : List (Nat × Move) := [(0, .call (.connect 0)), (0, .reply 0 (.response 200 content)),
      (0, .openBody 0), (0, .closeBody 0), (0, .call (.send stanza)), (0, .call (.send stanza)),
      (0, .call (.send stanza))]
    let s := ((Traffic.start (some settings) {}).run ms).session
    let w := ({ starts := fun _ => 0, nonce := "" } : World).newLink s
    s.settings.isSome ∧ s.active ∧ s.queued.length = 1 ∧
      (∃ q, Ended 0 none [q] (announced [.disconnected "logged out"]) w
        (w.stepSession (performWithin 0) 0 .disconnect)) := by
  intro settings stanza content ms s w
  have hrun : s.settings.isSome ∧ s.active ∧ s.queued.length = 1 := by decide +kernel
  obtain ⟨hsettings, hactive, hqueued⟩ := hrun
  have hobserved : Observed 0 w := observed_newLink s { starts := fun _ => 0, nonce := "" }
  obtain ⟨-, ⟨q, -, hended⟩, -⟩ :=
    ends_alike (some settings) {} ms rfl hsettings hactive hobserved (performWithin 0)
  exact ⟨hsettings, hactive, hqueued, q, hended⟩

end World

end XmppBosh.Client
