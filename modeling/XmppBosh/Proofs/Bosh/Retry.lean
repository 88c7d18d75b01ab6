import XmppBosh.Proofs.Bosh.Traffic

/-!
# Requests that are repeated and the session that they belong to

A request that went wrong is repeated when its alarm goes off, if the session has the identifier then
that it had before. A session may get its identifier in between, and sessions without an identifier are
all alike, so this is not whether the session is the same one. This module tells exactly when it is.

* `Traffic.Owns` : the session in which an alarm was set is the one that is active now;
* `Traffic.Repeats` : an alarm that is set to repeat a request;
* `Traffic.Resends` : the request is handed over again when the alarm goes off;
* `Traffic.Outgrown`, `Traffic.Mistaken` : the session has got its identifier since, and another
  session is active that has the same identifier or, like it, none;
* `Retried`, `Retried.act` : what holds of every alarm that is set;
* `resends_iff_owns_iff` : a request is handed over again exactly for the session that it belongs to,
  unless that session has outgrown it or another one is mistaken for it.
-/

namespace XmppBosh.Bosh

open Xml

namespace Session

variable {s : Session}

theorem posts_fire_retry (hs : s.settings.isSome) (hg : s.Grounded) (now : Nat) (request : String)
    (sid : Option String) :
    (s.fire now (.retry request sid)).posts.map Request.text =
      if s.active ∧ s.sid? = sid then [request] else [] := by
  obtain ⟨settings, hset⟩ := Option.isSome_iff_exists.1 hs
  split
  · next h =>
    obtain ⟨ha, rfl⟩ := h
    rw [fire_retry_eq ha (hg ha) hset]
    rfl
  · next h =>
    rw [fire_retry_other _ hg]
    · rfl
    · simpa [Decidable.or_iff_not_imp_left] using h

end Session

namespace Traffic

/-- The session in which an alarm was set is the one that is active now. -/
def Owns (a : Armed) (t : Traffic) : Prop := t.session.active ∧ a.session = t.count

structure Repeats (k : Nat) (a : Armed) (request : String) (sid : Option String) (t : Traffic) :
    Prop where
  place : t.armed[k]? = some a
  alarm : a.alarm = .retry request sid

/-- The request is handed over again when the alarm goes off. -/
def Resends (now k : Nat) (request : String) (t : Traffic) : Prop :=
  (t.step now (.fire k)).unanswered = t.unanswered ++ [⟨t.count, request⟩]

/-- The session has got its identifier since the request went wrong. -/
def Outgrown (a : Armed) (sid : Option String) (t : Traffic) : Prop :=
  t.Owns a ∧ sid = none ∧ t.session.sid?.isSome

/-- Another session is active that has the same identifier or, like it, none. -/
def Mistaken (a : Armed) (sid : Option String) (t : Traffic) : Prop :=
  t.session.active ∧ a.session ≠ t.count ∧ t.session.sid? = sid

/-! ## Invariant -/

/-- What holds of every request and every alarm that are on their way. -/
structure Retried (t : Traffic) : Prop where
  grounded : t.session.Grounded
  /-- An alarm was set in a session that has begun. -/
  begun : ∀ a ∈ t.armed, a.session ≤ t.count
  /-- A session keeps the identifier that it has got. -/
  named : ∀ a ∈ t.armed, ∀ request sid, a.alarm = .retry request sid → t.Owns a →
    sid = none ∨ sid = t.session.sid?
  /-- Requests are handed over only with settings, and go wrong only afterwards. -/
  settled : (t.unanswered ≠ [] ∨ ∃ a ∈ t.armed, ∃ request sid, a.alarm = .retry request sid) →
    t.session.settings.isSome

variable {t : Traffic} {m : Move} {i : Input} {now : Nat}

theorem Retried.start (settings : Option Settings) (timings : Timings) :
    Retried (start settings timings) where
  grounded := by simp [Session.Grounded, Traffic.start]
  begun := by simp [Traffic.start]
  named := by simp [Traffic.start]
  settled := by simp [Traffic.start]

theorem Retried.act (h : Retried t) (hi : t.input? m = some i) :
    Retried ((t.consume m).act now i) where
  grounded := Session.Grounded.step (by simpa using h.grounded) now i
  begun := by
    intro a ha
    rcases List.mem_append.1 ha with ha | ha
    · obtain ⟨b, hb, hab⟩ := mem_armed_consume ha
      have hle := h.begun b hb
      have hcount := le_countAfter i t
      simp only [Traffic.act, count_deliver, countAfter_consume]
      omega
    · obtain ⟨x, -, rfl⟩ := List.mem_map.1 ha
      exact Nat.le_refl _
  named := by
    intro a ha request sid hr howns
    obtain ⟨hactive, hown⟩ := howns
    simp only [Traffic.act, session_deliver, count_deliver, session_consume, countAfter_consume]
      at hactive hown ⊢
    rcases retry_of_mem_armed hi ha hr with ⟨b, hb, hsession, halarm⟩ | ⟨-, hsid, hfailed⟩
    · have hle := h.begun b hb
      cases hbegins : t.session.begins i with
      | true =>
        -- the alarm is of an earlier session than the one that begins now
        simp only [countAfter, hbegins, if_true] at hown
        omega
      | false =>
        have hnamed (hbefore : t.session.active) : sid = none ∨ sid = t.session.sid? :=
          h.named b hb request sid halarm
            ⟨hbefore, by rw [← hsession, hown, countAfter_of_not_begins hbegins]⟩
        cases Session.step_course hbegins now with
        | keep active hsid => exact hsid ▸ hnamed (active ▸ hactive)
        | stop active => simp [active] at hactive
        | establish _ _ _ before _ unset => exact .inl (by simpa [unset] using hnamed before)
    · exact .inr (by rw [hfailed]; exact hsid)
  settled := by
    intro hway
    rw [Traffic.act, session_deliver, session_consume]
    apply (Session.step_retains now i _).settings
    cases hs : t.session.settings with
    | some settings => rfl
    | none =>
      have hnot := mt h.settled (by simp [hs])
      rw [not_or, Decidable.not_not] at hnot
      obtain ⟨hunanswered, harmed⟩ := hnot
      rcases hway with hposts | ⟨a, ha, request, sid, hr⟩
      · have hempty : (t.consume m).unanswered = [] :=
          List.eq_nil_iff_forall_not_mem.2 fun q hq => by
            simpa [hunanswered] using mem_unanswered_consume hq
        simp [Traffic.act, hempty, Session.posts_of_no_settings hs] at hposts
      · rcases retry_of_mem_armed hi ha hr with ⟨b, hb, -, halarm⟩ | ⟨⟨q, hq, -⟩, -⟩
        · exact absurd ⟨b, hb, request, sid, halarm⟩ harmed
        · simp [hunanswered] at hq

theorem Retried.run (settings : Option Settings) (timings : Timings) (ms : List (Nat × Move)) :
    Retried ((Traffic.start settings timings).run ms) :=
  run_induction (P := Retried) (fun _ _ _ _ h hi => h.act hi) (.start settings timings) ms

/-! ## Repeating -/

variable {k : Nat} {a : Armed} {request : String} {sid : Option String}

theorem unanswered_step_fire (h : Retried t) (hk : t.Repeats k a request sid) (now : Nat) :
    (t.step now (.fire k)).unanswered = t.unanswered ++
      if t.session.active ∧ t.session.sid? = sid then [⟨t.count, request⟩] else [] := by
  have hset := h.settled (.inr ⟨a, List.mem_of_getElem? hk.place, request, sid, hk.alarm⟩)
  have hposts := Session.posts_fire_retry hset h.grounded now request sid
  have hi : t.input? (.fire k) = some (.fire a.alarm) := by simp [input?, hk.place]
  rw [step_some hi, hk.alarm]
  show t.unanswered ++ (t.session.fire now (.retry request sid)).posts.map
    ((fun text => ⟨t.count, text⟩) ∘ Request.text) = _
  rw [← List.map_map, hposts]
  split <;> rfl

theorem resends_iff (h : Retried t) (hk : t.Repeats k a request sid) (now : Nat) :
    t.Resends now k request ↔ t.session.active ∧ t.session.sid? = sid := by
  rw [Resends, unanswered_step_fire h hk now, List.append_cancel_left_eq]
  split <;> simp [*]

/-- **A request is repeated** for the session that it belongs to and for no other, exactly unless that
session has outgrown it or another one is mistaken for it. -/
theorem resends_iff_owns_iff (settings : Option Settings) (timings : Timings) (ms : List (Nat × Move))
    (h : ((start settings timings).run ms).Repeats k a request sid) (now : Nat) :
    let t := (start settings timings).run ms
    (t.Resends now k request ↔ t.Owns a) ↔ ¬ t.Outgrown a sid ∧ ¬ t.Mistaken a sid := by
  intro t
  have hretried := Retried.run settings timings ms
  have hnamed := hretried.named a (List.mem_of_getElem? h.place) request sid h.alarm
  rw [resends_iff hretried h now]
  constructor
  · intro hiff
    constructor
    · rintro ⟨howns, rfl, hsome⟩
      have hnone := (hiff.2 howns).2
      simp [t, hnone] at hsome
    · rintro ⟨hactive, hother, hsid⟩
      exact hother (hiff.1 ⟨hactive, hsid⟩).2
  · rintro ⟨hgrown, hmistaken⟩
    constructor
    · rintro ⟨hactive, hsid⟩
      refine ⟨hactive, ?_⟩
      by_cases hown : a.session = t.count
      · exact hown
      · exact absurd ⟨hactive, hown, hsid⟩ hmistaken
    · intro howns
      refine ⟨howns.1, ?_⟩
      rcases hnamed howns with rfl | hsid
      · cases hsome : t.session.sid? with
        | none => rfl
        | some sid => exact absurd ⟨howns, rfl, by simp [hsome]⟩ hgrown
      · exact hsid.symm

/-- A request goes wrong before the session has its identifier, which then comes with the reply to
another one; the request is not repeated, though the session goes on. -/
theorem not_resends_of_outgrown :
    let settings : Settings := { httpBase := "http://localhost/", hostName := "localhost" }
    let t := (start (some settings) {}).run
      [(0, .call (.connect 0)),
        (0, .call (.send { tag := { name := "message", ns := "jabber:client" } })),
        (0, .reply 1 (.failure (.other "refused"))),
        (0, .reply 0 (.response 200 "<body xmlns='http://jabber.org/protocol/httpbind' sid='s'/>")),
        (0, .openBody 0), (0, .closeBody 0)]
    let text := "<body xmlns='http://jabber.org/protocol/httpbind' rid='2'>" ++
      "<message xmlns='jabber:client'/></body>"
    let a : Armed := ⟨1, 2000, .retry text none⟩
    t.Repeats 1 a text none ∧ t.Owns a ∧ ¬ t.Resends 2000 1 text := by
  intro settings t text a
  have hrepeats : t.Repeats 1 a text none := ⟨by decide +kernel, rfl⟩
  have howns : t.Owns a := ⟨by decide +kernel, by decide +kernel⟩
  have hgrown : t.Outgrown a none := ⟨howns, rfl, by decide +kernel⟩
  refine ⟨hrepeats, howns, ?_⟩
  intro hresends
  have hiff := (resends_iff_owns_iff (some settings) {} _ hrepeats 2000).1
    (iff_of_true hresends howns)
  exact hiff.1 hgrown

end Traffic

end XmppBosh.Bosh
