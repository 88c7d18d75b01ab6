import Mathlib
import XmppBosh.Proofs.Bosh.Drafts
import XmppBosh.Proofs.Bosh.Origins

/-!
# Numbers without gaps

A body gets its number when it is begun, and it may wait for a long time before it goes out. The next
one is begun only after that, so the numbers of a session follow each other all the same.

* `Numbered` : the bodies of a session have the numbers from its first one on, and the pending body has
  the next one; `Numbered.drafted` : a step of a session that goes on keeps to this;
* `numbered_of_lasts` : so every session that is asked for keeps to it as long as it goes on;
* `Numbers`, `numbers_of_lasts` : what this says about the requests of a session and about their
  repetitions, whenever these take place.
-/

namespace XmppBosh.Bosh

/-- The bodies of a session have the numbers from the first one on, and the pending body, or the one
that would be begun next, has the next number. -/
structure Numbered (first : Nat) (bodies : List Body) (s : Session) : Prop where
  rids : bodies.map (Body.attr? "rid") = (List.range' first bodies.length).map fun n => some (toString n)
  next : s.draftRid? = some (first + bodies.length)
  draft : s.draft.attr? "rid" = some (toString (first + bodies.length))

namespace Numbered

open Session

variable {first start : Nat} {bodies : List Body} {s t : Session} {o : Outcome} {body : Body} {i : Input}
  {now : Nat}

theorem rid_draft {n : Nat} (hp : s.pending = none) (hr : s.draftRid? = some n) :
    s.draft.attr? "rid" = some (toString n) := by
  have hrid : s.stream.map (fun stream => stream.rid + 1) = some n := by
    simpa [draftRid?, hp, rid?, Function.comp_def] using hr
  obtain ⟨stream, hs, rfl⟩ := Option.map_eq_some_iff.1 hrid
  have hdraft : s.draft = .numbered (stream.rid + 1) stream.sid := by simp [Session.draft, hp, hs]
  rw [hdraft]
  exact congrArg Prod.fst (Body.heading_numbered (stream.rid + 1) stream.sid)

theorem of_same (h : Numbered first bodies s) (hp : t.pending = s.pending) (hr : t.rid? = s.rid?) :
    Numbered first bodies t := by
  have hnext : t.draftRid? = some (first + bodies.length) := by
    rw [← h.next, draftRid?, draftRid?, hp, hr]
  refine ⟨h.rids, hnext, ?_⟩
  cases hb : s.pending with
  | none => exact rid_draft (hp.trans hb) hnext
  | some body =>
    rw [draft_of_pending (hp.trans hb), ← draft_of_pending hb]
    exact h.draft

/-- **A step of a session that goes on** keeps the numbers. -/
theorem drafted (h : Numbered first bodies s) (hd : Drafted body s o)
    (hb : body.attr? "rid" = s.draft.attr? "rid") :
    Numbered first (bodies ++ o.posts.map fun _ => body) o.session := by
  cases hd with
  | kept posts pending rid =>
    rw [posts, List.map_nil, List.append_nil]
    exact h.of_same pending rid
  | edited posts pending rid =>
    rw [posts, List.map_nil, List.append_nil]
    refine ⟨h.rids, ?_, ?_⟩
    · rw [draftRid?_of_pending pending, rid, h.next]
    · rw [draft_of_pending pending, hb, h.draft]
  | posted request posts text pending rid =>
    have hnext : o.session.draftRid? = some (first + (bodies.length + 1)) := by
      rw [draftRid?, pending, rid, h.next]
      rfl
    rw [posts, List.map_singleton]
    refine ⟨?_, ?_, ?_⟩
    · rw [List.map_append, h.rids, List.length_append, List.length_singleton, List.range'_1_concat,
        List.map_append, List.map_singleton, List.map_singleton, hb, h.draft]
    · rw [List.length_append, List.length_singleton, hnext]
    · rw [List.length_append, List.length_singleton]
      exact rid_draft pending hnext

theorem opening (settings : Settings) (start : Nat) (s : Session) :
    Numbered (start + 1) [] (s.opening settings start) := by
  refine ⟨rfl, rfl, ?_⟩
  exact congrArg Prod.fst (Body.heading_sessionCreation settings (start + 1))

/-- The last body of a session has the next number, or the one after it if a body is discarded that has the
next. -/
theorem farewell (h : Numbered first bodies s) :
    (s.cleared.draft.set "type" "terminate").attr? "rid" =
      some (toString (first + bodies.length + s.pending.isSome.toNat)) := by
  have hnext : s.cleared.draftRid? = some (first + bodies.length + s.pending.isSome.toNat) := by
    have hcleared : s.cleared.draftRid? = s.rid?.map (· + 1) := rfl
    cases hp : s.pending with
    | none =>
      have hrid : s.draftRid? = s.rid?.map (· + 1) := by simp [draftRid?, hp]
      rw [hcleared, ← hrid, h.next]
      rfl
    | some body =>
      rw [hcleared, ← draftRid?_of_pending hp, h.next]
      rfl
  rw [Body.attr?_set, if_neg (by decide)]
  exact rid_draft rfl hnext

theorem nodup (h : Numbered first bodies s) : (bodies.map (Body.attr? "rid")).Nodup := by
  rw [h.rids]
  apply List.Nodup.map
  · intro a b hab
    exact Nat.repr_injective (Option.some.inj hab)
  · exact List.nodup_range'

end Numbered

/-- What the bodies of a session carry that was asked for with a first number. -/
structure Numbers (start : Nat) (bodies : List Body) (s : Session) : Prop where
  /-- The numbers follow each other. -/
  rids : bodies.map (Body.attr? "rid") =
    (List.range' (start + 1) bodies.length).map fun n => some (toString n)
  /-- None comes twice. -/
  nodup : (bodies.map (Body.attr? "rid")).Nodup
  /-- The pending body has the next number, which is that of the stream. -/
  pending : ∀ body, s.pending = some body →
    s.rid? = some (start + 1 + bodies.length) ∧
      body.attr? "rid" = some (toString (start + 1 + bodies.length))
  /-- The body with which the session ends has a number of its own, past that of a body which is
  discarded. -/
  last : ∀ i, s.discards i →
    (∀ now, ∀ q ∈ (s.step now i).posts, q.text = (s.outgoing i).text) ∧
      ∃ n, (s.outgoing i).attr? "rid" = some (toString n) ∧ start + bodies.length < n

theorem Numbered.numbers {start : Nat} {bodies : List Body} {s : Session}
    (h : Numbered (start + 1) bodies s) (hs : s.settings.isSome) (ha : s.active) :
    Numbers start bodies s where
  rids := h.rids
  nodup := h.nodup
  pending body hp := by
    rw [← Session.draftRid?_of_pending hp, ← Session.draft_of_pending hp]
    exact ⟨h.next, h.draft⟩
  last i hd := by
    have hn := h.farewell
    rw [← Session.outgoing_of_discards ha hd] at hn
    have hlt : start + bodies.length < start + 1 + bodies.length + s.pending.isSome.toNat := by omega
    exact ⟨fun now q hq => Session.text_of_mem_posts hs (Session.isRetry_of_discards hd) hq, _, hn, hlt⟩

namespace Traffic

variable {t : Traffic} {i : Input} {now start : Nat} {ms : List (Nat × Move)}

theorem numbered_stage {first : Nat} {gs : List Stage} {s : Session}
    (h : Numbered first (gs.flatMap Stage.bodies) s) (hs : s.settings.isSome) (hb : s.begins i = false)
    (ha : (s.step now i).session.active) :
    Numbered first ((gs ++ [Stage.mk s now i]).flatMap Stage.bodies) (s.step now i).session := by
  rw [List.flatMap_append, List.flatMap_singleton]
  cases hr : i.isRetry with
  | true =>
    obtain ⟨hpending, hrid⟩ := Session.step_kept_of_isRetry hr now s
    rw [Stage.bodies_retry hr, List.append_nil]
    exact h.of_same hpending hrid
  | false =>
    rw [Stage.bodies_eq hr hb ha]
    exact h.drafted (Session.step_drafted hs hb hr ha) (congrArg Prod.fst (Session.heading_edited i s))

theorem numbered_begun {s : Session} (h : s.begins (.connect start)) (now : Nat) :
    Numbered (start + 1) (Stage.mk s now (.connect start)).bodies (s.connect now start).session := by
  obtain ⟨settings, hs, hd⟩ := Session.begun_drafted h now
  have ha : s.active = false := by simpa [Session.begins, hs] using h
  have hbodies : (Stage.mk s now (.connect start)).bodies =
      [] ++ (s.connect now start).posts.map fun _ => Body.sessionCreation settings (start + 1) := by
    simp [Stage.bodies, Input.isRetry, Stage.outcome, Session.step, Session.outgoing, ha, hs]
  rw [hbodies]
  exact (Numbered.opening settings start s).drafted hd rfl

/-- **A session that is asked for** keeps the numbers as long as it goes on. -/
theorem numbered_of_lasts (hb : t.session.begins (.connect start))
    (hl : t.Lasts ((now, .call (.connect start)) :: ms)) :
    let gs := stages ((now, .call (.connect start)) :: ms) t
    let s := (t.run ((now, .call (.connect start)) :: ms)).session
    ((∀ g ∈ gs, g.before.settings.isSome) ∧ Numbered (start + 1) (gs.flatMap Stage.bodies) s) ∧
      s.settings.isSome ∧ s.active := by
  apply hl.connect_induction (P := fun gs s => (∀ g ∈ gs, g.before.settings.isSome) ∧
    Numbered (start + 1) (gs.flatMap Stage.bodies) s) hb
  · rw [List.flatMap_singleton]
    exact ⟨by simpa using (Bool.and_eq_true_iff.1 hb).1, numbered_begun hb now⟩
  · rintro gs s now i ⟨hgs, hnumbered⟩ hs hbegins hactive
    refine ⟨?_, numbered_stage hnumbered hs hbegins hactive⟩
    rw [List.forall_mem_append]
    exact ⟨hgs, by simpa using hs⟩

/-- **Numbers have no gaps, and repetitions are exact.** The bodies of a session have the numbers after
the one that it was asked for with, in the order in which they are handed over, as long as it goes on.
Whenever one of its requests is handed over again, even after its end, this is the same text. -/
theorem numbers_of_lasts (settings : Option Settings) (timings : Timings)
    (before after : List (Nat × Move)) (now start : Nat)
    (hb : ((Traffic.start settings timings).run before).session.begins (.connect start))
    (hl : ((Traffic.start settings timings).run before).Lasts ((now, .call (.connect start)) :: after)) :
    let t := (Traffic.start settings timings).run before
    let opened := (now, .call (.connect start)) :: after
    let older := handedOver false (stages before (Traffic.start settings timings))
    let bodies := (stages opened t).flatMap Stage.bodies
    handedOver false (stages opened t) = bodies.map Body.text ∧
      Numbers start bodies (t.run opened).session ∧
      ∀ later now m i q, (t.run (opened ++ later)).input? m = some i → i.isRetry →
        q ∈ ((t.run (opened ++ later)).session.step now i).posts →
        ∃ n, (origins settings timings (before ++ opened ++ later)).origin? m = some n ∧
          (n < older.length → older[n]? = some q.text) ∧
          ∀ j body, n = older.length + j → bodies[j]? = some body → q.text = body.text := by
  intro t opened older bodies
  obtain ⟨⟨hsettings, hnumbered⟩, hset, hactive⟩ := numbered_of_lasts hb hl
  have htexts : handedOver false (stages opened t) = bodies.map Body.text := handedOver_eq hsettings
  refine ⟨htexts, hnumbered.numbers hset hactive, fun later now m i q hi hr hq => ?_⟩
  have hrun : (Traffic.start settings timings).run (before ++ opened ++ later) =
      t.run (opened ++ later) := by
    simp [t, Traffic.run, List.foldl_append]
  have hexact := exact_origins settings timings (before ++ opened ++ later)
  rw [hrun] at hexact
  have htell := hexact.tell_of_mem_posts hi hr hq
  generalize hro : origins settings timings (before ++ opened ++ later) = r at htell ⊢
  -- The texts of the whole run are those from before the session, its own, and those from after it.
  have hall : r.texts = older ++ (bodies.map Body.text ++
      handedOver false (stages later (t.run opened))) := by
    rw [← hro, origins, List.append_assoc, Origins.follow_append, Origins.follow_append,
      Origins.texts_follow, Origins.texts_follow, Origins.texts_follow, htexts]
    exact List.append_assoc ..
  obtain ⟨n, hn, htext⟩ := Option.map_eq_some_iff.1 htell
  refine ⟨n, hn, fun hlt => ?_, fun j body hj hbody => ?_⟩
  · rw [hall, List.getElem?_append_left hlt] at htext
    exact htext
  · have hlt : j < (bodies.map Body.text).length := by
      rw [List.length_map]
      exact (List.getElem?_eq_some_iff.1 hbody).1
    rw [hall, hj, List.getElem?_append_right (by omega), Nat.add_sub_cancel_left,
      List.getElem?_append_left hlt, List.getElem?_map, hbody] at htext
    exact (Option.some.inj htext).symm

/-- A stanza whose request goes wrong is handed over again with its number. -/
theorem numbers_of_repeated :
    let settings : Settings := { httpBase := "http://localhost/", hostName := "localhost" }
    let stanza : Xml.Element := { tag := { name := "message", ns := "jabber:client" } }
    let after : List (Nat × Move) :=
      [(0, .call (.send stanza)), (0, .reply 1 (.failure .timeout)), (2000, .fire 1)]
    let t := Traffic.start (some settings) {}
    let gs := stages ((0, .call (.connect 7)) :: after) t
    t.session.begins (.connect 7) ∧ t.Lasts ((0, .call (.connect 7)) :: after) ∧
      (handedOver false gs).length = 2 ∧ handedOver true gs = (handedOver false gs).drop 1 ∧
      (gs.flatMap Stage.bodies).map (Body.attr? "rid") = [some "8", some "9"] := by
  intro settings stanza after t gs
  have hb : t.session.begins (.connect 7) := by decide
  have hl : t.Lasts ((0, .call (.connect 7)) :: after) := by decide +kernel
  have hlength : (gs.flatMap Stage.bodies).length = 2 := by decide +kernel
  obtain ⟨-, hnumbers, -⟩ := numbers_of_lasts (some settings) {} [] after 0 7 hb hl
  refine ⟨hb, hl, by decide +kernel, by decide +kernel, hnumbers.rids.trans ?_⟩
  show (List.range' 8 (gs.flatMap Stage.bodies).length).map _ = _
  rw [hlength]
  rfl

end Traffic

end XmppBosh.Bosh
