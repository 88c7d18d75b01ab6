import XmppBosh.Proofs.Bosh.Step

/-!
# What a step does with stanzas

The stanzas of the pending body stay there, go out in one body, or are discarded with it. A request
that is repeated has nothing to do with them.

* `Input.stanza?` : the stanza that an input adds; `Input.isRetry` : whether it repeats a request;
* `Session.discards` : whether an input discards the pending body, which happens when a session begins
  and when one ends here;
* `Session.kept` : the stanzas that an input leaves;
* `Carried`, `step_carried` : these, and what is added, stay pending together or go out together;
* `fire_retry_carried` : a request that is repeated has nothing to do with them.
-/

namespace XmppBosh.Bosh

open Xml

def Input.stanza? : Input → Option Element
  | .send stanza => some stanza
  | _ => none

def Input.isRetry : Input → Bool
  | .fire (.retry _ _) => true
  | _ => false

theorem Input.exists_of_isRetry {i : Input} (h : i.isRetry) :
    ∃ request sid, i = .fire (.retry request sid) := by
  unfold isRetry at h
  split at h
  · exact ⟨_, _, rfl⟩
  · cases h

/-- Stanzas stay pending together or go out together, in one body. -/
inductive Carried (stanzas : List Element) (o : Outcome) : Prop
  | pending (posts : o.posts = []) (queued : o.session.queued = stanzas)
  | posted (request : Request) (body : Body) (posts : o.posts = [request])
    (text : request.text = body.text) (stanzas : body.stanzas = stanzas)
    (queued : o.session.queued = [])

namespace Session

variable {s : Session} {i : Input} {now : Nat}

def discards (i : Input) (s : Session) : Bool :=
  match i with
  | .connect start => s.begins (.connect start)
  | .disconnect => true
  | .answer _ reply => s.active &&
    match reply.reading with
    | .body _ => false
    | .gone _ => true
    | .bad _ => s.isExhausted
  | _ => false

theorem isRetry_of_discards (h : s.discards i) : i.isRetry = false := by
  cases i with
  | fire alarm => cases h
  | _ => rfl

/-- The stanzas of the pending body that an input leaves. -/
def kept (i : Input) (s : Session) : List Element := if s.discards i then [] else s.queued

@[simp] theorem queued_cleared (s : Session) : s.cleared.queued = [] := rfl

theorem queued_of_pending {t : Session} (h : t.pending = s.pending) : t.queued = s.queued := by
  simp [queued, h]

/-! ## Last bodies -/

theorem length_posts_disconnect (hs : s.settings.isSome) (hst : s.stream.isSome) (now : Nat) :
    (s.disconnect now).posts.length = 1 := by
  obtain ⟨settings, hs⟩ := Option.isSome_iff_exists.1 hs
  rw [posts_disconnect hs, if_pos hst]
  rfl

theorem length_posts_answer {request : String} {r : Reply} (hs : s.settings.isSome)
    (hst : s.stream.isSome) (hd : s.discards (.answer request r)) (now : Nat) :
    (s.answer now request r).posts.length = 1 := by
  have ha := answered now request r s
  generalize s.answer now request r = o at ha ⊢
  cases ha with
  | ignored ha => simp [discards, ha] at hd
  | accepted ha body hr => simp [discards, hr] at hd
  | repeated ha reason hr hx => simp [discards, hr, hx] at hd
  | gone => exact length_posts_disconnect (s := { s with outstanding := s.outstanding - 1 }) hs hst now
  | exhausted =>
    exact length_posts_disconnect
      (s := { s.failed request with outstanding := (s.failed request).outstanding - 1 }) hs hst now

theorem length_posts_of_discards (hs : s.settings.isSome) (hst : s.stream.isSome)
    (hb : s.begins i = false) (hd : s.discards i) (now : Nat) : (s.step now i).posts.length = 1 := by
  cases i with
  | connect start => simp [discards, hb] at hd
  | disconnect => exact length_posts_disconnect hs hst now
  | answer request r => exact length_posts_answer hs hst hd now
  | _ => cases hd

end Session

namespace Carried

open Session

variable {s t : Session} {now : Nat} {o : Outcome} {stanzas : List Element}

theorem idle (s : Session) (notices : List Notice) : Carried s.queued ⟨s, [], notices⟩ :=
  .pending rfl rfl

theorem andThen {next : Session → Outcome} (h : Carried stanzas o)
    (hposts : (next o.session).posts = [])
    (hpending : (next o.session).session.pending = o.session.pending) :
    Carried stanzas (o.andThen next) := by
  have hqueued : (o.andThen next).session.queued = o.session.queued := queued_of_pending hpending
  cases h with
  | pending posts queued => exact .pending (by simp [posts, hposts]) (hqueued.trans queued)
  | posted request body posts text stanzas queued =>
    exact .posted request body (by simp [posts, hposts]) text stanzas (hqueued.trans queued)

theorem startHeartbeat (h : Carried stanzas o) : Carried stanzas (o.andThen Session.startHeartbeat) :=
  h.andThen (posts_startHeartbeat _) (pending_startHeartbeat _)

theorem release (hs : s.settings.isSome) (now : Nat) : Carried s.queued (s.release now) := by
  obtain ⟨settings, hs⟩ := Option.isSome_iff_exists.1 hs
  cases hb : s.pending with
  | none =>
    rw [release_none hb]
    exact idle s []
  | some body =>
    rw [release_eq hs hb]
    exact .posted _ body rfl rfl (by simp [queued, hb]) rfl

theorem flush (now : Nat) (s : Session) : Carried s.queued (s.flush now) := by
  unfold Session.flush
  split
  · next hm => exact release (settings_isSome_of_maySend hm) now
  · exact idle s []

theorem keepOpen (now : Nat) (s : Session) : Carried s.queued (s.keepOpen now) := by
  rcases keepOpen_cases now s with ⟨-, h⟩ | ⟨-, -, h⟩ | ⟨_, -, -, -, h⟩
  · exact h ▸ idle s []
  · exact h ▸ flush now s
  · exact h ▸ .pending rfl rfl

theorem disconnect (hs : s.settings.isSome) (now : Nat) : Carried [] (s.disconnect now) := by
  obtain ⟨settings, hs⟩ := Option.isSome_iff_exists.1 hs
  have hposts := posts_disconnect hs now
  have hqueued : (s.disconnect now).session.queued = [] := by simp [queued]
  split at hposts
  · exact .posted _ (s.cleared.draft.set "type" "terminate") hposts rfl (by simp) hqueued
  · exact .pending hposts hqueued

theorem giveUp (hs : s.settings.isSome) (now : Nat) (reason : String) :
    Carried [] (s.giveUp now reason) := by
  have h := disconnect (s := { s with outstanding := s.outstanding - 1 }) hs now
  cases h with
  | pending posts queued => exact .pending posts queued
  | posted request body posts text stanzas queued => exact .posted request body posts text stanzas queued

end Carried

namespace Session

variable {s : Session} {i : Input} {now : Nat}

theorem connect_carried {start : Nat} (hs : s.settings.isSome) (now : Nat) :
    Carried (s.kept (.connect start)) (s.connect now start) := by
  have hc := started now start s
  generalize s.connect now start = o at hc ⊢
  cases hc with
  | refused hnone => simp [hnone] at hs
  | renewed _ ha => exact .pending rfl (by simp [kept, discards, begins, ha, renewed, queued])
  | begun settings _ ha =>
    have hkept : s.kept (.connect start) = (s.opening settings start).queued := by
      simp [kept, discards, begins, hs, ha, queued, opening]
    rw [hkept]
    exact (Carried.flush now _).startHeartbeat

theorem answer_carried {request : String} {r : Reply} (hs : s.settings.isSome) (now : Nat) :
    Carried (s.kept (.answer request r)) (s.answer now request r) := by
  have ha := answered now request r s
  generalize s.answer now request r = o at ha ⊢
  cases ha with
  | ignored ha => simpa [kept, discards, ha] using Carried.idle s []
  | accepted ha body hr => exact .pending rfl (by simp [kept, discards, hr, accept, queued])
  | repeated ha reason hr hx => exact .pending rfl (by simp [kept, discards, hr, hx, failed, queued])
  | gone ha content hr => simpa [kept, discards, ha, hr] using Carried.giveUp hs now _
  | exhausted ha reason hr hx =>
    simpa [kept, discards, ha, hr, hx] using Carried.giveUp (s := s.failed request) hs now _

theorem openBody_carried (body : Element) (s : Session) :
    Carried s.queued (s.openBody body) := by
  have ho := opened body s
  generalize s.openBody body = o at ho ⊢
  cases ho <;> exact .pending rfl rfl

theorem fire_carried {alarm : Alarm} (hi : Input.isRetry (.fire alarm) = false) (now : Nat) :
    Carried s.queued (s.fire now alarm) := by
  cases alarm with
  | retry request sid => cases hi
  | continuation rid =>
    simp only [fire]
    split
    · simpa [queued_edit] using Carried.flush now (s.edit id)
    · exact .idle s []
  | heartbeat period =>
    simp only [fire]
    split
    · exact .keepOpen now s
    · exact .idle s []

theorem pause_carried (hs : s.settings.isSome) (now : Nat) : Carried s.queued (s.pause now) := by
  unfold pause
  split
  · exact .idle s []
  · next seconds _ =>
    have hedit := edit_frame (Body.set "pause" (toString seconds)) s
    have h := Carried.release (s := s.edit (Body.set "pause" (toString seconds)))
      (hedit.settings ▸ hs) now
    simpa [queued_edit] using h

theorem resume_carried (now : Nat) (stream : Stream) (s : Session) :
    Carried s.queued (s.resume now stream) := by
  have h := Carried.keepOpen now { s with active := true, stream := some stream }
  exact h.startHeartbeat

theorem step_carried_of_no_stanza (hs : s.settings.isSome) (hi : i.isRetry = false)
    (hn : i.stanza? = none) (now : Nat) : Carried (s.kept i) (s.step now i) := by
  cases i with
  | connect start => exact connect_carried hs now
  | disconnect => exact .disconnect hs now
  | send stanza => cases hn
  | flush => exact .flush now s
  | restart => exact .pending rfl (by simp [step, restart, queued_edit, kept, discards])
  | pause => exact pause_carried hs now
  | resume stream => exact resume_carried now stream s
  | setSettings settings => exact .pending rfl rfl
  | setTimings timings => exact .pending rfl rfl
  | answer request r => exact answer_carried hs now
  | openBody body => exact openBody_carried body s
  | closeBody => exact .keepOpen now { s with dispatching := s.dispatching - 1 }
  | fire alarm => exact fire_carried hi now

theorem fire_retry_carried (now : Nat) (request : String) (sid : Option String) (s : Session) :
    (s.fire now (.retry request sid)).session.queued = s.queued ∧
      ∀ r ∈ (s.fire now (.retry request sid)).posts, r.text = request := by
  simp only [fire]
  split
  · refine ⟨queued_of_pending (pending_transmit ..), fun r hr => ?_⟩
    cases hs : s.settings with
    | none => simp [transmit, hs] at hr
    | some settings =>
      simp [transmit, hs] at hr
      rw [hr]
  · exact ⟨rfl, by simp⟩

/-- **The stanzas that a step leaves and the one that it adds** stay pending together or go out
together, unless the step repeats a request. -/
theorem step_carried (hs : s.settings.isSome) (hi : i.isRetry = false) (now : Nat) :
    Carried (s.kept i ++ i.stanza?.toList) (s.step now i) := by
  cases hn : i.stanza? with
  | none =>
    rw [Option.toList_none, List.append_nil]
    exact step_carried_of_no_stanza hs hi hn now
  | some stanza =>
    cases i with
    | send e =>
      cases hn
      have h := Carried.flush now (s.edit (Body.push stanza))
      rw [queued_edit, Body.stanzas_push, stanzas_draft] at h
      exact h
    | _ => cases hn

end Session

end XmppBosh.Bosh
