import XmppBosh.Proofs.Bosh.Farewell
import XmppBosh.Proofs.Bosh.Naming
import XmppBosh.Proofs.Bosh.Numbering

/-!
# Whether a last body is next in line

A server takes up a request when it has all those with lower numbers. So the number of a last body should
follow that of the last body before it, or the server waits for one that never comes.

* `Body.Follows` : a body has the number after that of another;
* `Session.takesLeave`, `Session.ended_of_discards` : what discards the pending body of an active session makes it
  take its leave, and ends it;
* `Numbered.follows_of_pending`, `Numbered.farewell_follows` : what is pending has the next number, and a last
  body the next one after what it discards;
* `follows_iff_of_lasts` : so the number of the last body follows exactly if nothing was pending.
-/

namespace XmppBosh.Bosh

/-- A body has the number after that of another. -/
def Body.Follows (next previous : Body) : Prop :=
  ∃ n, previous.attr? "rid" = some (toString n) ∧ next.attr? "rid" = some (toString (n + 1))

theorem Body.follows_iff {next previous : Body} {n m : Nat} (hp : previous.attr? "rid" = some (toString n))
    (hn : next.attr? "rid" = some (toString m)) : next.Follows previous ↔ m = n + 1 := by
  constructor
  · rintro ⟨k, hk, hnext⟩
    obtain rfl : k = n := Nat.repr_injective (Option.some.inj (hk.symm.trans hp))
    exact Nat.repr_injective (Option.some.inj (hn.symm.trans hnext))
  · rintro rfl
    exact ⟨n, hp, hn⟩

namespace Session

variable {s : Session} {i : Input} {now : Nat}

theorem not_begins_of_discards (ha : s.active) (hd : s.discards i) : s.begins i = false := by
  cases i with
  | connect start => simp [begins, ha]
  | resume stream => cases hd
  | _ => rfl

/-- What a session hands over with an input that discards what is pending: one request with a last body, which has no
stanzas and names the session. -/
structure TakesLeave (now : Nat) (i : Input) (s : Session) : Prop where
  posts : ∃ q, (s.step now i).posts = [q] ∧ q.text = (s.outgoing i).text
  farewell : (s.outgoing i).isFarewell
  sid : (s.outgoing i).attr? "sid" = s.sid?
  stanzas : (s.outgoing i).stanzas = []

/-- **An active session** takes its leave. -/
theorem takesLeave (hs : s.settings.isSome) (hst : s.stream.isSome) (ha : s.active) (hd : s.discards i) (now : Nat) :
    s.TakesLeave now i := by
  have hbegins := not_begins_of_discards ha hd
  obtain ⟨q, hq⟩ := List.length_eq_one_iff.1 (length_posts_of_discards hs hst hbegins hd now)
  have htext : q.text = (s.outgoing i).text :=
    text_of_mem_posts hs (isRetry_of_discards hd) (hq ▸ List.mem_singleton_self q)
  have hout := outgoing_of_discards ha hd
  refine ⟨⟨q, hq, htext⟩, ?_, ?_, ?_⟩
  · rw [hout, Body.isFarewell, Body.attr?_set, if_pos rfl]
    rfl
  · rw [hout, Body.attr?_set, if_neg (by decide)]
    exact Named.sid_draft rfl
  · rw [hout, Body.stanzas_set, stanzas_draft]
    rfl

theorem ended_of_discards (ha : s.active) (hd : s.discards i) (now : Nat) :
    (s.step now i).session.active = false ∧ (s.step now i).session.sid? = none ∧
      (s.step now i).session.pending = none := by
  cases i with
  | connect start => simp [discards, begins, ha] at hd
  | disconnect => exact ⟨active_disconnect .., sid?_disconnect .., pending_disconnect ..⟩
  | answer request r =>
    have hanswered := answered now request r s
    rw [step]
    generalize s.answer now request r = o at hanswered ⊢
    cases hanswered with
    | ignored hinactive => simp [ha] at hinactive
    | accepted _ body hr => simp [discards, hr] at hd
    | repeated _ reason hr hx => simp [discards, hr, hx] at hd
    | gone => exact ⟨active_giveUp .., sid?_giveUp .., pending_giveUp ..⟩
    | exhausted => exact ⟨active_giveUp .., sid?_giveUp .., pending_giveUp ..⟩
  | _ => cases hd

end Session

namespace Numbered

open Session

variable {first : Nat} {bodies : List Body} {s : Session} {previous body : Body} {i : Input}

/-- The last of the bodies so far has the number before that of the next. -/
theorem rid_getLast (h : Numbered first bodies s) (hl : bodies.getLast? = some previous) :
    previous.attr? "rid" = some (toString (first + bodies.length - 1)) := by
  obtain ⟨init, rfl⟩ := List.getLast?_eq_some_iff.1 hl
  have hrids := h.rids
  rw [List.map_append, List.length_append, List.length_singleton, List.range'_1_concat, List.map_append] at hrids
  have hlast := (List.append_inj' hrids rfl).2
  rw [List.length_append, List.length_singleton]
  exact List.singleton_inj.1 hlast

/-- What is pending follows the bodies so far. -/
theorem follows_of_pending (h : Numbered first bodies s) (hl : bodies.getLast? = some previous)
    (hp : s.pending = some body) : body.Follows previous := by
  have hpos := List.length_pos_of_mem (List.mem_of_getLast? hl)
  have hrid := h.draft
  rw [draft_of_pending hp] at hrid
  rw [Body.follows_iff (h.rid_getLast hl) hrid]
  omega

/-- **A last body** follows what it discards, and it follows the bodies so far exactly if it discards nothing. -/
theorem farewell_follows (h : Numbered first bodies s) (ha : s.active) (hd : s.discards i)
    (hl : bodies.getLast? = some previous) :
    ((s.outgoing i).Follows previous ↔ s.pending = none) ∧
      ∀ body, s.pending = some body → (s.outgoing i).Follows body := by
  have hpos := List.length_pos_of_mem (List.mem_of_getLast? hl)
  have hrid := h.farewell
  rw [← outgoing_of_discards ha hd] at hrid
  constructor
  · rw [Body.follows_iff (h.rid_getLast hl) hrid]
    cases s.pending with
    | none => exact iff_of_true (by simp; omega) rfl
    | some body => exact iff_of_false (by simp; omega) nofun
  · intro body hp
    have hbody := h.draft
    rw [draft_of_pending hp] at hbody
    rw [Body.follows_iff hbody hrid, hp]
    rfl

end Numbered

namespace Traffic

open Session Xml

/-- **Whether the number of the last body follows.** Whenever a session that was asked for ends, because the client
says so, the server does not know it or there have been too many errors, exactly one request goes out, with a last
body that names the session. This body has the number after that of the last body that the session handed over
exactly if nothing was pending. A body that was pending has that number, which is lost with it, and the last body has
the next one. -/
theorem follows_iff_of_lasts (settings : Option Settings) (timings : Timings)
    (before after : List (Nat × Move)) (now start : Nat)
    (hb : ((Traffic.start settings timings).run before).session.begins (.connect start))
    (hl : ((Traffic.start settings timings).run before).Lasts ((now, .call (.connect start)) :: after)) :
    let t := (Traffic.start settings timings).run before
    let opened := (now, .call (.connect start)) :: after
    let bodies := (stages opened t).flatMap Stage.bodies
    let s := (t.run opened).session
    handedOver false (stages opened t) = bodies.map Body.text ∧
      ∀ now i, s.discards i →
        (∃ q, (s.step now i).posts = [q] ∧ q.text = (s.outgoing i).text) ∧
          (s.outgoing i).isFarewell ∧ (s.outgoing i).attr? "sid" = s.sid? ∧
          ∀ previous, bodies.getLast? = some previous →
            ((s.outgoing i).Follows previous ↔ s.pending = none) ∧
              ∀ body, s.pending = some body → body.Follows previous ∧ (s.outgoing i).Follows body := by
  intro t opened bodies s
  obtain ⟨⟨hsettings, hnumbered⟩, hset, hactive⟩ := numbered_of_lasts hb hl
  refine ⟨handedOver_eq hsettings, fun now i hd => ?_⟩
  have hstream : s.stream.isSome := by
    have hground : s.Grounded := by
      have h := grounded_run settings timings (before ++ opened)
      rwa [Traffic.run, List.foldl_append] at h
    exact hground hactive
  have hleave := takesLeave hset hstream hactive hd now
  refine ⟨hleave.posts, hleave.farewell, hleave.sid, fun previous hprevious => ?_⟩
  obtain ⟨hiff, hnext⟩ := hnumbered.farewell_follows hactive hd hprevious
  exact ⟨hiff, fun body hp => ⟨hnumbered.follows_of_pending hprevious hp, hnext body hp⟩⟩

/-- Two requests may be unanswered, so the third stanza waits. If the client ends the session then, the body with
that stanza takes its number with it. -/
theorem not_follows_of_waiting :
    let settings : Settings := { httpBase := "http://localhost/", hostName := "localhost" }
    let stanza : Element := { tag := { name := "message", ns := "jabber:client" } }
    let content := "<body xmlns='http://jabber.org/protocol/httpbind' sid='s'/>"
    let opened : List (Nat × Move) := [(0, .call (.connect 0)), (0, .reply 0 (.response 200 content)),
      (0, .openBody 0), (0, .closeBody 0), (0, .call (.send stanza)), (0, .call (.send stanza)),
      (0, .call (.send stanza))]
    let t := Traffic.start (some settings) {}
    let s := (t.run opened).session
    t.session.begins (.connect 0) ∧ t.Lasts opened ∧ s.sid? = some "s" ∧
      ((stages opened t).flatMap Stage.bodies).map (Body.attr? "rid") = [some "1", some "2", some "3"] ∧
      (s.outgoing .disconnect).attr? "rid" = some "5" ∧
      ∀ previous, ((stages opened t).flatMap Stage.bodies).getLast? = some previous →
        ¬ (s.outgoing .disconnect).Follows previous := by
  intro settings stanza content opened t s
  have hb : t.session.begins (.connect 0) := by decide
  have hl : t.Lasts opened := by decide +kernel
  have hrun : s.sid? = some "s" ∧
      ((stages opened t).flatMap Stage.bodies).map (Body.attr? "rid") = [some "1", some "2", some "3"] ∧
      (s.outgoing .disconnect).attr? "rid" = some "5" := by decide +kernel
  obtain ⟨hsid, hrids, hrid⟩ := hrun
  refine ⟨hb, hl, hsid, hrids, hrid, fun previous hprevious hfollows => ?_⟩
  obtain ⟨-, hends⟩ := follows_iff_of_lasts (some settings) {} [] _ 0 0 hb hl
  have hd : s.discards .disconnect := by simp [discards]
  obtain ⟨-, -, -, hlast⟩ := hends 0 .disconnect hd
  exact absurd ((hlast previous hprevious).1.1 hfollows) (by decide +kernel)

end Traffic

end XmppBosh.Bosh
