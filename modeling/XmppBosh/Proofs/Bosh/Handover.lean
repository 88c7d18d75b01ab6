import Mathlib
import XmppBosh.Proofs.Bosh.Naming
import XmppBosh.Proofs.Bosh.Numbering
import XmppBosh.Proofs.Bosh.Quiet

/-!
# Handing a session over

A client puts a session aside and gets a token for it, with which another client takes it up again. The
numbers of both follow each other without a gap.

* `Session.token?`, `perform_pause` : the token that a client gets when it puts a session aside;
* `Paused`, `paused` : what happens then;
* `exists_opening` : an active session was asked for, and has gone on since;
* `Signed` : a session that has its identifier puts it on all of its bodies;
* `Lasts.resume_induction`, `resumed_of_lasts` : what a session hands over that has been taken up again;
* `Farewell` : the body with which a session ends;
* `handed_over` : what this says about two clients and all of their runs.
-/

namespace XmppBosh.Bosh

open Xml

/-- The token that a client gets when it puts the session aside: the stream to take up again. -/
def Session.token? (now : Nat) (s : Session) : Option Stream :=
  if s.maxPause?.isSome then (s.pause now).session.stream else none

/-- What happens when a session is put aside: its draft goes out as its last body, with the number that
is in the token. -/
structure Paused (now : Nat) (s : Session) (token : Stream) : Prop where
  posts : ∃ q, (s.pause now).posts = [q] ∧ q.text = (s.edited .pause).text
  pending : (s.pause now).session.pending = none
  stream : (s.pause now).session.stream = some token
  number : s.draftRid? = some token.rid
  sid : token.sid = s.sid?
  named : s.sid?.isSome

namespace Session

variable {s : Session} {now : Nat} {token : Stream}

theorem sid?_isSome_of_token? (h : s.token? now = some token) : s.sid?.isSome := by
  by_contra hn
  have hmax : s.maxPause? = none := maxPause?_of_nameless (by simpa using hn)
  simp [token?, hmax] at h

theorem paused (hs : s.settings.isSome) (h : s.token? now = some token) : Paused now s token := by
  have hnamed := sid?_isSome_of_token? h
  unfold token? at h
  split at h
  · next hmax =>
    obtain ⟨seconds, hmax⟩ := Option.isSome_iff_exists.1 hmax
    have hpause : s.pause now = (s.edit (Body.set "pause" (toString seconds))).release now := by
      simp [pause, hmax]
    have hrid : (s.pause now).session.rid? = some token.rid := by rw [rid?, h, Option.map_some]
    have hsid : (s.pause now).session.sid? = token.sid := by rw [sid?, h, Option.bind_some]
    obtain ⟨settings, hs⟩ := Option.isSome_iff_exists.1 hs
    have hset := (edit_frame (Body.set "pause" (toString seconds)) s).settings.trans hs
    have hrelease := release_eq hset (pending_edit _ s) now
    refine ⟨⟨_, by rw [hpause, hrelease, Outcome.posts_post], ?_⟩, ?_, h, ?_, ?_, hnamed⟩
    · simp [edited, hmax]
    · rw [hpause, pending_release]
    · rw [← hrid, hpause, hrelease]
      exact ((rid?_stamp now _).trans (rid?_edit _ s)).symm
    · rw [← hsid, (pause_frame now s).sid?]
  · cases h

theorem resume_frame (now : Nat) (stream : Stream) (s : Session) :
    Frame { s with active := true, stream := some stream } (s.resume now stream).session :=
  (keepOpen_frame now _).trans (startHeartbeat_frame _)

theorem resume_drafted (now : Nat) (stream : Stream) (s : Session) :
    Drafted (s.outgoing (.resume stream)) { s with active := true, stream := some stream }
      (s.resume now stream) :=
  (Drafted.keepOpen now { s with active := true, stream := some stream }).startHeartbeat

theorem links_doEffects (link : Nat) (effects : List Effect) (w : Client.World) :
    (effects.foldl (Client.World.doEffect link) w).links = w.links := by
  induction effects generalizing w with
  | nil => rfl
  | cons effect effects ih =>
    rw [List.foldl_cons, ih]
    cases effect <;> rfl

/-- **What a client gets** when it puts its session aside is the token. -/
theorem perform_pause {act : Client.Act} {w : Client.World} {link : Nat} (hlink : w.link = some link)
    (hs : w.session? link = some s) : (w.perform act .pause).2 = .stream (s.token? w.now) := by
  cases hmax : s.maxPause? with
  | none =>
    simp [Client.World.perform, Client.World.performOnLink, Client.World.withSession, hlink, hs, hmax, token?]
  | some seconds =>
    have hsession : (w.stepSession act link .pause).session? link = some (s.pause w.now).session := by
      obtain ⟨l, hl, hls⟩ := Option.bind_eq_some_iff.1 hs
      rw [Client.World.stepSession, hs]
      simp [step, Client.World.session?, links_doEffects, Client.World.modifyLink, hl]
    simp [Client.World.perform, Client.World.performOnLink, Client.World.withSession, hlink, hs, hmax, token?,
      hsession]

end Session

namespace Traffic

open Session

variable {t : Traffic} {now : Nat} {ms : List (Nat × Move)}

/-! ## Where an active session comes from -/

theorem Lasts.append {ms' : List (Nat × Move)} (h : t.Lasts ms) (h' : (t.run ms).Lasts ms') :
    t.Lasts (ms ++ ms') := by
  rw [Lasts, stages_append, List.forall_mem_append]
  exact ⟨h, h'⟩

theorem lasts_singleton {m : Move} {i : Input} (hi : t.input? m = some i) (hr : i.isResume = false)
    (ha : (t.session.step now i).session.active) : t.Lasts [(now, m)] := by
  simpa [Lasts, stages, hi, Stage.outcome] using ⟨ha, hr⟩

/-- **An active session was asked for**, unless one was taken up, and it has gone on since. -/
theorem exists_opening {settings : Option Settings} {timings : Timings}
    (hr : ∀ g ∈ stages ms (start settings timings), g.input.isResume = false)
    (ha : ((start settings timings).run ms).session.active) :
    ∃ before at' first after, ms = before ++ (at', .call (.connect first)) :: after ∧
      ((start settings timings).run before).session.begins (.connect first) ∧
      ((start settings timings).run before).Lasts ((at', .call (.connect first)) :: after) := by
  induction ms using List.reverseRecOn with
  | nil => cases ha
  | append_singleton ms x ih =>
    obtain ⟨now, m⟩ := x
    rw [stages_append, List.forall_mem_append] at hr
    obtain ⟨hrest, hlast⟩ := hr
    rw [run_append, run_cons, run_nil] at ha
    generalize ht : (start settings timings).run ms = t at ha hlast ih
    cases hi : t.input? m with
    | none =>
      rw [step_none hi] at ha
      obtain ⟨before, at', first, after, rfl, hb, hl⟩ := ih hrest ha
      refine ⟨before, at', first, after ++ [(now, m)], by simp, hb, ?_⟩
      rw [← List.cons_append]
      apply hl.append
      rw [← run_append, ht]
      simp [Lasts, stages, hi]
    | some i =>
      have hresume : i.isResume = false := hlast ⟨t.session, now, i⟩ (by simp [stages, hi])
      rw [step_some hi, session_act] at ha
      cases hb : t.session.begins i with
      | true =>
        -- The last move begins the session.
        obtain ⟨first, rfl⟩ : ∃ first, i = .connect first := by
          cases i with
          | connect first => exact ⟨first, rfl⟩
          | resume stream => cases hresume
          | _ => cases hb
        obtain rfl := call_of_input? hi rfl
        exact ⟨ms, now, first, [], rfl, ht ▸ hb, ht ▸ lasts_singleton hi hresume ha⟩
      | false =>
        have hactive : t.session.active := by
          cases step_course hb now with
          | keep active => exact active ▸ ha
          | stop active => simp [active] at ha
          | establish _ _ _ before => exact before
        obtain ⟨before, at', first, after, rfl, hbegins, hl⟩ := ih hrest hactive
        refine ⟨before, at', first, after ++ [(now, m)], by simp, hbegins, ?_⟩
        rw [← List.cons_append]
        apply hl.append
        rw [← run_append, ht]
        exact lasts_singleton hi hresume ha

end Traffic

/-! ## Sessions that have their identifier -/

/-- The bodies of a session carry its identifier, and so does its draft. -/
structure Signed (sid : String) (bodies : List Body) (s : Session) : Prop where
  sids : ∀ body ∈ bodies, body.attr? "sid" = some sid
  named : s.sid? = some sid
  draft : s.draft.attr? "sid" = some sid

/-- The body with which a session would end carries its identifier, and a number past those of its bodies. -/
def Farewell (sid : String) (last : Nat) (s : Session) : Prop :=
  ∀ i, s.discards i → (∀ now, ∀ q ∈ (s.step now i).posts, q.text = (s.outgoing i).text) ∧
    (s.outgoing i).attr? "sid" = some sid ∧
      ∃ n, (s.outgoing i).attr? "rid" = some (toString n) ∧ last < n

namespace Signed

open Session

variable {sid : String} {bodies : List Body} {s t : Session} {o : Outcome} {body : Body} {i : Input}
  {now : Nat}

theorem of_stream {stream : Stream} (hp : s.pending = none) (hs : s.stream = some stream)
    (hsid : stream.sid = some sid) : Signed sid [] s := by
  have hnamed : s.sid? = some sid := by rw [sid?, hs, Option.bind_some, hsid]
  exact ⟨List.forall_mem_nil _, hnamed, (Named.sid_draft hp).trans hnamed⟩

theorem of_same (h : Signed sid bodies s) (hp : t.pending = s.pending) (hs : t.sid? = s.sid?) :
    Signed sid bodies t := by
  refine ⟨h.sids, hs.trans h.named, ?_⟩
  cases hb : s.pending with
  | none => rw [Named.sid_draft (hp.trans hb), hs, h.named]
  | some body => rw [draft_of_pending (hp.trans hb), ← draft_of_pending hb, h.draft]

/-- **A step that keeps the identifier** keeps it on the draft and on what goes out. -/
theorem drafted (h : Signed sid bodies s) (hd : Drafted body s o)
    (hb : body.attr? "sid" = s.draft.attr? "sid") (hs : o.session.sid? = s.sid?) :
    Signed sid (bodies ++ o.posts.map fun _ => body) o.session := by
  cases hd with
  | kept posts pending rid =>
    rw [posts, List.map_nil, List.append_nil]
    exact h.of_same pending hs
  | edited posts pending rid =>
    rw [posts, List.map_nil, List.append_nil]
    refine ⟨h.sids, hs.trans h.named, ?_⟩
    rw [draft_of_pending pending, hb, h.draft]
  | posted request posts text pending rid =>
    refine ⟨?_, hs.trans h.named, ?_⟩
    · rw [posts, List.map_singleton, List.forall_mem_append, List.forall_mem_singleton]
      exact ⟨h.sids, hb.trans h.draft⟩
    · rw [Named.sid_draft pending, hs, h.named]

end Signed

namespace Traffic

open Session

variable {t : Traffic} {i : Input} {now : Nat} {ms : List (Nat × Move)} {sid : String}

theorem signed_stage {gs : List Stage} {s : Session} (h : Signed sid (gs.flatMap Stage.bodies) s)
    (hs : s.settings.isSome) (hb : s.begins i = false) (ha : (s.step now i).session.active) :
    Signed sid ((gs ++ [Stage.mk s now i]).flatMap Stage.bodies) (s.step now i).session := by
  have hsid : (s.step now i).session.sid? = s.sid? := by
    rcases Named.sid?_cases hb ha with hsid | ⟨hnone, -⟩
    · exact hsid
    · simp [h.named] at hnone
  rw [List.flatMap_append, List.flatMap_singleton]
  cases hr : i.isRetry with
  | true =>
    rw [Stage.bodies_retry hr, List.append_nil]
    exact h.of_same (step_kept_of_isRetry hr now s).1 hsid
  | false =>
    rw [Stage.bodies_eq hr hb ha]
    exact h.drafted (step_drafted hs hb hr ha) (congrArg Prod.snd (heading_edited i s)) hsid

/-! ## Sessions that are taken up again -/

/-- What a session hands over that has been taken up with a token: every body carries the identifier, and
the numbers go on from the one in the token. -/
structure Resumed (sid : String) (token : Stream) (gs : List Stage) (s : Session) : Prop where
  settings : ∀ g ∈ gs, g.before.settings.isSome
  numbered : Numbered (token.rid + 1) (gs.flatMap Stage.bodies) s
  signed : Signed sid (gs.flatMap Stage.bodies) s

/-- What the first step of a session that is taken up leads to, and every later one preserves, together
with the history since, holds as long as the session lasts. -/
theorem Lasts.resume_induction {P : List Stage → Session → Prop} {token : Stream}
    (hl : (t.step now (.call (.resume token))).Lasts ms) (hs : t.session.settings.isSome)
    (begun : P [⟨t.session, now, .resume token⟩] (t.session.resume now token).session)
    (step : ∀ gs s now i, P gs s → s.settings.isSome → s.begins i = false →
      (s.step now i).session.active → P (gs ++ [⟨s, now, i⟩]) (s.step now i).session) :
    let resumed := (now, .call (.resume token)) :: ms
    P (stages resumed t) (t.run resumed).session ∧ (t.run resumed).session.settings.isSome ∧
      (t.run resumed).session.active := by
  intro resumed
  have hset := (step_retains now (.resume token) t.session).settings hs
  have hactive := active_of_begins (s := t.session) (i := .resume token) rfl now
  exact hl.induction step hset hactive begun

theorem resumed_begun {token : Stream} {s : Session} (hs : s.settings.isSome) (hp : s.pending = none)
    (hsid : token.sid = some sid) (now : Nat) :
    Resumed sid token [⟨s, now, .resume token⟩] (s.resume now token).session := by
  have hd := resume_drafted now token s
  have hframe := resume_frame now token s
  have hnext : draftRid? { s with active := true, stream := some token } = some (token.rid + 1) := by
    simp [draftRid?, hp, rid?]
  have hnumbered : Numbered (token.rid + 1) [] { s with active := true, stream := some token } :=
    ⟨rfl, hnext, Numbered.rid_draft hp hnext⟩
  have hsigned : Signed sid [] { s with active := true, stream := some token } :=
    .of_stream hp rfl hsid
  refine ⟨by simpa using hs, ?_, ?_⟩
  · rw [List.flatMap_singleton]
    exact hnumbered.drafted hd rfl
  · rw [List.flatMap_singleton]
    exact hsigned.drafted hd rfl hframe.sid?

/-- **A session that is taken up again** goes on from the token as long as it lasts. -/
theorem resumed_of_lasts {token : Stream} (hs : t.session.settings.isSome)
    (hp : t.session.pending = none) (hsid : token.sid = some sid)
    (hl : (t.step now (.call (.resume token))).Lasts ms) :
    let resumed := (now, .call (.resume token)) :: ms
    Resumed sid token (stages resumed t) (t.run resumed).session ∧
      (t.run resumed).session.settings.isSome ∧ (t.run resumed).session.active := by
  intro resumed
  refine hl.resume_induction (P := Resumed sid token) hs (resumed_begun hs hp hsid now) ?_
  rintro gs s now i ⟨hgs, hnumbered, hsigned⟩ hs hb ha
  refine ⟨?_, numbered_stage hnumbered hs hb ha, signed_stage hsigned hs hb ha⟩
  rw [List.forall_mem_append]
  exact ⟨hgs, by simpa using hs⟩

theorem Resumed.texts {token : Stream} {gs : List Stage} {s : Session} (h : Resumed sid token gs s) :
    handedOver false gs = (gs.flatMap Stage.bodies).map Body.text :=
  handedOver_eq h.settings

theorem Resumed.farewell {token : Stream} {gs : List Stage} {s : Session} (h : Resumed sid token gs s)
    (hs : s.settings.isSome) (ha : s.active) :
    Farewell sid (token.rid + (gs.flatMap Stage.bodies).length) s := by
  intro i hd
  obtain ⟨htext, hnumber⟩ := (h.numbered.numbers hs ha).last i hd
  refine ⟨htext, ?_, hnumber⟩
  rw [outgoing_of_discards ha hd, Body.attr?_set, if_neg (by decide), ← h.signed.named]
  exact Named.sid_draft rfl

/-! ## Two clients -/

/-- The bodies of a session that is put aside, the last one with the number of its token. -/
structure Departed (first : Nat) (token : Stream) (gs : List Stage) : Prop where
  texts : handedOver false gs = (gs.flatMap Stage.bodies).map Body.text
  rids : (gs.flatMap Stage.bodies).map (Body.attr? "rid") =
    (List.range' (first + 1) (gs.flatMap Stage.bodies).length).map fun n => some (toString n)
  last : ((gs.flatMap Stage.bodies).getLast?.bind (Body.attr? "rid")) = some (toString token.rid)
  number : token.rid = first + (gs.flatMap Stage.bodies).length

theorem departed_of_lasts {first at' : Nat} {token : Stream} {after : List (Nat × Move)}
    (hb : t.session.begins (.connect first)) (hl : t.Lasts ((at', .call (.connect first)) :: after))
    (htoken : (t.run ((at', .call (.connect first)) :: after)).session.token? now = some token) :
    Departed first token (stages ((at', .call (.connect first)) :: after ++ [(now, .call .pause)]) t) := by
  obtain ⟨⟨hsettings, hnumbered⟩, hs, ha⟩ := numbered_of_lasts hb hl
  generalize hgs : stages ((at', .call (.connect first)) :: after) t = gs at hsettings hnumbered
  generalize hrun : (t.run ((at', .call (.connect first)) :: after)) = t' at htoken hnumbered hs ha
  have hpaused := paused hs htoken
  obtain ⟨q, hq, htext⟩ := hpaused.posts
  have hstages : stages ((at', .call (.connect first)) :: after ++ [(now, .call .pause)]) t =
      gs ++ [⟨t'.session, now, .pause⟩] := by
    rw [stages_append, hgs, hrun]
    rfl
  have hlast : (Stage.mk t'.session now .pause).bodies = [t'.session.edited .pause] := by
    have hactive : (t'.session.step now .pause).session.active := (pause_frame now _).active.trans ha
    rw [Stage.bodies_eq rfl rfl hactive]
    show (t'.session.pause now).posts.map _ = _
    rw [hq, List.map_singleton]
  have hbodies : (gs ++ [Stage.mk t'.session now .pause]).flatMap Stage.bodies =
      gs.flatMap Stage.bodies ++ [t'.session.edited .pause] := by
    rw [List.flatMap_append, List.flatMap_singleton, hlast]
  -- The token has the number of the draft, which is the next one.
  have hnumber : token.rid = first + 1 + (gs.flatMap Stage.bodies).length := by
    rw [← Option.some.injEq, ← hpaused.number, hnumbered.next]
  have hrid : (t'.session.edited .pause).attr? "rid" = some (toString token.rid) := by
    rw [hnumber, ← hnumbered.draft]
    exact congrArg Prod.fst (heading_edited .pause t'.session)
  rw [hstages]
  refine ⟨?_, ?_, ?_, ?_⟩
  · apply handedOver_eq
    rw [List.forall_mem_append]
    exact ⟨hsettings, by simpa using hs⟩
  · rw [hbodies, List.map_append, hnumbered.rids, List.map_singleton, hrid, hnumber, List.length_append,
      List.length_singleton, List.range'_1_concat, List.map_append, List.map_singleton]
  · rw [hbodies, List.getLast?_concat]
    exact hrid
  · rw [hbodies, List.length_append, List.length_singleton]
    omega

/-- **The numbers go on from one client to the other.** A client whose session was asked for, and that
never took one up, puts it aside and gets a token. Then its session has handed over bodies with all the
numbers from its first one to the one in the token. Another client that takes the session up with the
token names it on every body, and gives them the numbers from the next one on, in the order in which they
are handed over, whatever it does and whatever comes in until the session ends. So both together use each
number once. The body that ends the session names it too, and has a number of its own. -/
theorem handed_over (settings : Option Settings) (timings : Timings) (ms : List (Nat × Move)) (now : Nat)
    (token : Stream) (hr : ∀ g ∈ stages ms (start settings timings), g.input.isResume = false)
    (htoken : ((start settings timings).run ms).session.token? now = some token) :
    ∃ before at' first after sid, ms = before ++ (at', .call (.connect first)) :: after ∧
      let t := (start settings timings).run before
      let gs := stages ((at', .call (.connect first)) :: after ++ [(now, .call .pause)]) t
      t.session.begins (.connect first) ∧ t.Lasts ((at', .call (.connect first)) :: after) ∧
      token.sid = some sid ∧ Departed first token gs ∧
      ∀ (settings' : Settings) (timings' : Timings) (now' : Nat) (later : List (Nat × Move)),
        let t' := start (some settings') timings'
        let gs' := stages ((now', .call (.resume token)) :: later) t'
        let bodies' := gs'.flatMap Stage.bodies
        let bodies := gs.flatMap Stage.bodies ++ bodies'
        (t'.step now' (.call (.resume token))).Lasts later →
          handedOver false gs' = bodies'.map Body.text ∧
          (∀ body ∈ bodies', body.attr? "sid" = some sid) ∧
          bodies'.map (Body.attr? "rid") =
            (List.range' (token.rid + 1) bodies'.length).map (fun n => some (toString n)) ∧
          bodies.map (Body.attr? "rid") =
            (List.range' (first + 1) bodies.length).map (fun n => some (toString n)) ∧
          Farewell sid (token.rid + bodies'.length)
            (t'.run ((now', .call (.resume token)) :: later)).session := by
  have hsound := sound_run settings timings ms
  have hnamed := sid?_isSome_of_token? htoken
  have hactive : ((start settings timings).run ms).session.active := by
    by_contra hn
    have hnone := hsound.nameless (by simpa using hn)
    simp [hnone] at hnamed
  obtain ⟨before, at', first, after, rfl, hb, hl⟩ := exists_opening hr hactive
  obtain ⟨-, hs, -⟩ := numbered_of_lasts hb hl
  rw [run_append] at htoken hnamed
  obtain ⟨sid, hsid⟩ := Option.isSome_iff_exists.1 hnamed
  have htokenSid : token.sid = some sid := (paused hs htoken).sid.trans hsid
  have hdeparted := departed_of_lasts hb hl htoken
  refine ⟨before, at', first, after, sid, rfl, hb, hl, htokenSid, hdeparted, ?_⟩
  intro settings' timings' now' later t' gs' bodies' bodies hlasts
  obtain ⟨hresumed, hset, hact⟩ := resumed_of_lasts (t := t') rfl rfl htokenSid hlasts
  refine ⟨hresumed.texts, hresumed.signed.sids, hresumed.numbered.rids, ?_, hresumed.farewell hset hact⟩
  have hrids : bodies'.map (Body.attr? "rid") = _ := hresumed.numbered.rids
  rw [List.map_append, hdeparted.rids, hrids, hdeparted.number, List.length_append, ← List.map_append]
  congr 1
  rw [Nat.add_right_comm]
  exact List.range'_append_1

/-- A session with three requests is taken up by another client, which asks the server again after a
while and sends a stanza. -/
theorem handed_over_of_polled :
    let settings : Settings := { httpBase := "http://localhost/", hostName := "localhost" }
    let stanza : Element := { tag := { name := "message", ns := "jabber:client" } }
    let content := "<body xmlns='http://jabber.org/protocol/httpbind' sid='s' maxpause='9'/>"
    let ms : List (Nat × Move) := [(0, .call (.connect 7)), (0, .reply 0 (.response 200 content)),
      (0, .openBody 0), (0, .closeBody 0), (0, .call (.send stanza))]
    let token : Stream := { sid := some "s", rid := 10, maxPause := some 9, lastRequest := some 0 }
    let later : List (Nat × Move) := [(300, .fire 0), (300, .call (.send stanza))]
    let t' := start (some settings) {}
    let bodies' := (stages ((0, .call (.resume token)) :: later) t').flatMap Stage.bodies
    (∀ g ∈ stages ms (start (some settings) {}), g.input.isResume = false) ∧
      ((start (some settings) {}).run ms).session.token? 0 = some token ∧
      (t'.step 0 (.call (.resume token))).Lasts later ∧
      bodies'.map (Body.attr? "rid") = [some "11", some "12"] ∧
      ∀ body ∈ bodies', body.attr? "sid" = some "s" := by
  intro settings stanza content ms token later t' bodies'
  have hr : ∀ g ∈ stages ms (start (some settings) {}), g.input.isResume = false := by decide +kernel
  have htoken : ((start (some settings) {}).run ms).session.token? 0 = some token := by decide +kernel
  have hl : (t'.step 0 (.call (.resume token))).Lasts later := by decide +kernel
  have hlength : bodies'.length = 2 := by decide +kernel
  obtain ⟨_, _, _, _, sid, -, -, -, hsid, -, hresumed⟩ := handed_over (some settings) {} ms 0 token hr htoken
  obtain ⟨-, hsids, hrids, -⟩ := hresumed settings {} 0 later hl
  obtain rfl : "s" = sid := Option.some.inj hsid
  refine ⟨hr, htoken, hl, hrids.trans ?_, hsids⟩
  show (List.range' 11 bodies'.length).map _ = _
  rw [hlength]
  rfl

end Traffic

end XmppBosh.Bosh
