import XmppBosh.Proofs.Bosh.Admission
import XmppBosh.Proofs.Bosh.Numbering
import XmppBosh.Proofs.Bosh.Writing

/-!
# What errors hold back

While requests are being repeated nothing new goes out. Several may go wrong at a time, each known by its
text, and their replies and alarms come in any order. This module tells which requests are being repeated,
and that nothing slips past them.

* `Marked`, `step_marked` : what a step makes of the requests that are being repeated;
* `Stage.Fails`, `Stage.Answers` : a step in which a request goes wrong, and one in which it is answered;
  `Broken` : a request that has gone wrong, and has not been answered since;
* `Single` : a history in which a session is asked for once at most, and none is taken up;
* `Written` : the requests of a session have numbers of their own, and so have texts of their own;
  `waiting_act`, `Apart` : so each has one copy at most that waits; `apart_run` : this holds in every run
  with a single session;
* `Unbegun`, `Gated` : what holds before its session begins, and while it is active; `Gated.step` : a step
  of the session keeps to this; `standing_run` : and so does a run;
* `gated_of_single` : what this says about the requests that are being repeated and about those that are
  handed over meanwhile.
-/

namespace XmppBosh.Bosh

def Input.isConnect : Input → Bool
  | .connect _ => true
  | _ => false

namespace Session

variable {s : Session} {i : Input} {now : Nat}

/-! ## Requests that are being repeated -/

/-- What a step makes of the requests that are being repeated. -/
inductive Marked (i : Input) (s t : Session) : Prop
  | kept (other : ∀ request r, i ≠ .answer request r) (retrying : t.retrying = s.retrying)
  | answered (request : String) (r : Reply) (body : Xml.Element) (input : i = .answer request r)
    (reading : r.reading = .body body) (retrying : t.retrying = s.retrying.erase request)
  | failed (request : String) (r : Reply) (reason : String) (input : i = .answer request r)
    (reading : r.reading = .bad reason) (retrying : t.retrying = (s.failed request).retrying)

theorem Marked.of_frame {t : Session} (hi : ∀ request r, i ≠ .answer request r) (h : Frame s t) :
    Marked i s t := .kept hi h.retrying

theorem answer_marked {request : String} {r : Reply} (ha : s.active)
    (hafter : (s.answer now request r).session.active) :
    Marked (.answer request r) s (s.answer now request r).session := by
  have h := answered now request r s
  generalize s.answer now request r = o at h hafter ⊢
  cases h with
  | ignored hn => simp [ha] at hn
  | accepted _ body hr => exact .answered request r body rfl hr rfl
  | repeated _ reason hr => exact .failed request r reason rfl hr rfl
  | gone => cases hafter
  | exhausted => cases hafter

/-- **A step of a session that goes on** marks a request that goes wrong, and unmarks one that is
answered. -/
theorem step_marked (hb : s.begins i = false) (hc : i.isConnect = false) (ha : s.active)
    (hafter : (s.step now i).session.active) : Marked i s (s.step now i).session := by
  cases i with
  | connect start => cases hc
  | disconnect => cases hafter
  | resume stream => cases hb
  | send stanza => exact .of_frame (by simp) ((edit_frame _ s).trans (flush_frame now _))
  | flush => exact .of_frame (by simp) (flush_frame now s)
  | restart => exact .of_frame (by simp) (edit_frame _ s)
  | pause => exact .of_frame (by simp) (pause_frame now s)
  | setSettings settings => exact .kept (by simp) rfl
  | setTimings timings => exact .kept (by simp) rfl
  | answer request r => exact answer_marked ha hafter
  | openBody body =>
    refine .kept (by simp) ?_
    have ho := opened body s
    simp only [step]
    generalize s.openBody body = o at ho ⊢
    cases ho <;> rfl
  | closeBody =>
    exact .kept (by simp) (keepOpen_frame now { s with dispatching := s.dispatching - 1 }).retrying
  | fire alarm => exact .of_frame (by simp) (fire_frame now alarm s)

theorem retrying_of_begins {start : Nat} (hb : s.begins (.connect start)) (now : Nat) :
    (s.connect now start).session.retrying = [] := by
  have hc := started now start s
  generalize s.connect now start = o at hc ⊢
  cases hc with
  | refused hs => simp [begins, hs] at hb
  | renewed => rfl
  | begun settings =>
    exact ((flush_frame now (s.opening settings start)).trans (startHeartbeat_frame _)).retrying

end Session

namespace Traffic

open Session

def Stage.Fails (x : String) (g : Stage) : Prop := ∃ r, g.input = .answer x r ∧ r.reading.isBad

def Stage.Answers (x : String) (g : Stage) : Prop :=
  ∃ r body, g.input = .answer x r ∧ r.reading = .body body

/-- A request has gone wrong, and has not been answered since. -/
def Broken (x : String) (gs : List Stage) : Prop := Since (Stage.Fails x) (¬ Stage.Answers x ·) gs

variable {gs : List Stage} {g : Stage} {t : Traffic} {m : Move} {i : Input} {now first : Nat} {x : String}

theorem broken_concat : Broken x (gs ++ [g]) ↔ g.Fails x ∨ Broken x gs ∧ ¬ g.Answers x := since_concat

/-- **The requests that are being repeated** are the broken ones, from one step to the next. -/
theorem mem_retrying_iff_broken {s t : Session} (hn : s.retrying.Nodup)
    (h : x ∈ s.retrying ↔ Broken x gs) (hm : Marked i s t) :
    x ∈ t.retrying ↔ Broken x (gs ++ [⟨s, now, i⟩]) := by
  rw [broken_concat, ← h]
  cases hm with
  | kept other retrying =>
    have hfails : ¬ Stage.Fails x ⟨s, now, i⟩ := fun ⟨r, hi, _⟩ => other x r hi
    have hanswers : ¬ Stage.Answers x ⟨s, now, i⟩ := fun ⟨r, _, hi, _⟩ => other x r hi
    simp [retrying, hfails, hanswers]
  | answered request r body input reading retrying =>
    have hfails : ¬ Stage.Fails x ⟨s, now, i⟩ := by
      rintro ⟨r', hi, hbad⟩
      obtain ⟨-, rfl⟩ := Input.answer.inj (input.symm.trans hi)
      simp [reading, Reading.isBad] at hbad
    have hanswers : Stage.Answers x ⟨s, now, i⟩ ↔ x = request := by
      constructor
      · rintro ⟨r', body', hi, -⟩
        exact (Input.answer.inj (input.symm.trans hi)).1.symm
      · rintro rfl
        exact ⟨r, body, input, reading⟩
    rw [retrying, hn.mem_erase_iff]
    simp [hfails, hanswers, and_comm]
  | failed request r reason input reading retrying =>
    have hanswers : ¬ Stage.Answers x ⟨s, now, i⟩ := by
      rintro ⟨r', body', hi, hbody⟩
      obtain ⟨-, rfl⟩ := Input.answer.inj (input.symm.trans hi)
      simp [reading] at hbody
    have hfails : Stage.Fails x ⟨s, now, i⟩ ↔ x = request := by
      constructor
      · rintro ⟨r', hi, -⟩
        exact (Input.answer.inj (input.symm.trans hi)).1.symm
      · rintro rfl
        exact ⟨r, input, by simp [reading, Reading.isBad]⟩
    rw [retrying, mem_retrying_failed]
    simp [hfails, hanswers, or_comm]

/-! ## Histories -/

def connects (gs : List Stage) : Nat := gs.countP (·.input.isConnect)

theorem connects_concat (gs : List Stage) (g : Stage) :
    connects (gs ++ [g]) = connects gs + g.input.isConnect.toNat := by
  cases h : g.input.isConnect <;> simp [connects, h]

/-- A session is asked for at most once, and none is taken up. -/
def Single (gs : List Stage) : Prop := connects gs ≤ 1 ∧ ∀ g ∈ gs, g.input.isResume = false

instance (gs : List Stage) : Decidable (Single gs) := inferInstanceAs (Decidable (_ ∧ ∀ g ∈ gs, _))

/-- The requests of a session in a history have numbers of their own, and so have texts of their own. -/
structure Written (first : Nat) (gs : List Stage) (s : Session) : Prop where
  settings : s.settings.isSome
  numbered : Numbered first (gs.flatMap Stage.bodies) s
  plain : ∀ b ∈ gs.flatMap Stage.bodies, b.Plain
  pending : s.Plain
  texts : handedOver false gs = (gs.flatMap Stage.bodies).map Body.text

namespace Written

variable {s : Session} {start : Nat}

theorem nodup (h : Written first gs s) : (handedOver false gs).Nodup := by
  rw [h.texts]
  exact Body.nodup_texts h.plain h.numbered.nodup

theorem texts_concat (ht : handedOver false gs = (gs.flatMap Stage.bodies).map Body.text)
    (hs : g.before.settings.isSome) :
    handedOver false (gs ++ [g]) = ((gs ++ [g]).flatMap Stage.bodies).map Body.text := by
  rw [handedOver_append, ht, handedOver_eq (by simpa using hs), List.flatMap_append, List.map_append]

theorem begun (hb : s.begins (.connect start)) (hbodies : gs.flatMap Stage.bodies = [])
    (ht : handedOver false gs = []) (now : Nat) :
    Written (start + 1) (gs ++ [⟨s, now, .connect start⟩]) (s.connect now start).session := by
  obtain ⟨settings, hs, hd⟩ := begun_drafted hb now
  have hcreation := Body.plain_sessionCreation settings (start + 1)
  have houtgoing : s.outgoing (.connect start) = .sessionCreation settings (start + 1) := by
    have ha : s.active = false := by simpa [begins, hs] using hb
    simp [outgoing, ha, hs]
  have hopening : (s.opening settings start).Plain := by
    rintro _ ⟨⟩
    exact hcreation
  have hsettings : s.settings.isSome := by simp [hs]
  constructor
  · exact (step_retains now (.connect start) s).settings hsettings
  · rw [List.flatMap_append, hbodies, List.nil_append, List.flatMap_singleton]
    exact numbered_begun hb now
  · intro b hb
    rw [List.flatMap_append, hbodies, List.nil_append, List.flatMap_singleton] at hb
    simp only [Stage.bodies, houtgoing] at hb
    split at hb
    · cases hb
    · obtain ⟨q, -, rfl⟩ := List.mem_map.1 hb
      exact hcreation
  · exact hopening.drafted hcreation hd
  · exact texts_concat (by rw [ht, hbodies, List.map_nil]) hsettings

/-- **A step of a session that goes on** hands over a body with a number of its own, if any. -/
theorem step (h : Written first gs s) (hb : s.begins i = false) (ha : (s.step now i).session.active) :
    Written first (gs ++ [⟨s, now, i⟩]) (s.step now i).session := by
  have hedited := h.pending.edited i
  constructor
  · exact (step_retains now i s).settings h.settings
  · exact numbered_stage h.numbered h.settings hb ha
  · rw [List.flatMap_append, List.forall_mem_append, List.flatMap_singleton]
    refine ⟨h.plain, fun b hbody => ?_⟩
    cases hr : i.isRetry with
    | true => simp [Stage.bodies_retry hr] at hbody
    | false =>
      rw [Stage.bodies_eq hr hb ha] at hbody
      obtain ⟨q, -, rfl⟩ := List.mem_map.1 hbody
      exact hedited
  · cases hr : i.isRetry with
    | true =>
      rw [Plain, (step_kept_of_isRetry hr now s).1]
      exact h.pending
    | false => exact h.pending.drafted hedited (step_drafted h.settings hb hr ha)
  · exact texts_concat h.texts h.settings

end Written

/-! ## Copies -/

theorem handedOver_singleton (g : Stage) :
    handedOver false [g] = if g.input.isRetry then [] else g.outcome.posts.map Request.text := by
  cases h : g.input.isRetry <;> simp [handedOver, h]

theorem Turn.exists_perm {t' : Traffic} {o : Outcome} (h : Turn t t' i o) :
    ∃ lost, (lost ++ t'.waiting).Perm
      (t.waiting ++ if i.isRetry then [] else o.posts.map Request.text) := by
  cases h with
  | more _ first waiting => exact ⟨[], by simpa [first] using waiting⟩
  | done request _ first waiting =>
    refine ⟨[request], ?_⟩
    cases hr : i.isRetry with
    | true => simpa [first hr] using waiting
    | false => exact waiting
  | again _ _ retry _ waiting => exact ⟨[], by simpa [retry] using waiting⟩

/-- If the requests of a session have texts of their own, each has one copy at most that waits for its
reply or for its retry. -/
theorem waiting_act (hi : t.input? m = some i) (hn : t.waiting.Nodup)
    (hk : ∀ x ∈ t.waiting, x ∈ handedOver false gs)
    (hd : (handedOver false (gs ++ [⟨t.session, now, i⟩])).Nodup) :
    ((t.consume m).act now i).waiting.Nodup ∧
      ∀ x ∈ ((t.consume m).act now i).waiting, x ∈ handedOver false (gs ++ [⟨t.session, now, i⟩]) := by
  obtain ⟨lost, hperm⟩ := (turn hi now).exists_perm
  have hnew := handedOver_singleton ⟨t.session, now, i⟩
  simp only [Stage.outcome] at hnew
  rw [← hnew] at hperm
  rw [handedOver_append] at hd ⊢
  obtain ⟨-, hnodup, hdisjoint⟩ := List.nodup_append.1 hd
  -- What waits was handed over before, so that its text is none of those handed over now.
  have hall : (t.waiting ++ handedOver false [⟨t.session, now, i⟩]).Nodup :=
    List.nodup_append.2 ⟨hn, hnodup, fun x hx y hy => hdisjoint x (hk x hx) y hy⟩
  refine ⟨(hperm.nodup_iff.2 hall).of_append_right, fun x hx => ?_⟩
  have hmem := hperm.mem_iff.1 (List.mem_append_right lost hx)
  exact List.mem_append.2 ((List.mem_append.1 hmem).imp_left (hk x))

/-- The requests of a session have texts of their own, and of each there is one copy at most that waits
for its reply or for its retry. -/
structure Apart (first : Nat) (gs : List Stage) (t : Traffic) : Prop where
  written : Written first gs t.session
  nodup : t.waiting.Nodup
  known : ∀ x ∈ t.waiting, x ∈ handedOver false gs

/-- **A step of a session that goes on** keeps its requests apart. -/
theorem Apart.step (h : Apart first gs t) (hi : t.input? m = some i) (hb : t.session.begins i = false)
    (ha : (t.session.step now i).session.active) :
    Apart first (gs ++ [⟨t.session, now, i⟩]) ((t.consume m).act now i) := by
  have hwritten := h.written.step hb ha
  obtain ⟨hnodup, hknown⟩ := waiting_act hi h.nodup h.known hwritten.nodup
  exact ⟨session_act m now i t ▸ hwritten, hnodup, hknown⟩

/-! ## Before a session and in it -/

/-- The session has not begun, and so nothing has happened to any request. -/
structure Unbegun (gs : List Stage) (t : Traffic) : Prop where
  fresh : t.Fresh
  bodies : gs.flatMap Stage.bodies = []
  texts : handedOver false gs = []
  sound : ∀ x, ¬ Broken x gs

/-- What holds while the session is active. -/
structure Gated (first : Nat) (gs : List Stage) (t : Traffic) : Prop where
  active : t.session.active
  written : Written first gs t.session
  /-- Of every request there is one copy, which waits for its reply or for its retry. -/
  nodup : t.waiting.Nodup
  known : ∀ x ∈ t.waiting, x ∈ handedOver false gs
  /-- A request that waits for its retry is being repeated. -/
  retries : ∀ x ∈ t.retries, x ∈ t.session.retrying
  marks : t.session.retrying.Nodup
  broken : ∀ x, x ∈ t.session.retrying ↔ Broken x gs

theorem Unbegun.step (h : Unbegun gs t) (hi : t.input? m = some i) (hb : t.session.begins i = false)
    (now : Nat) : Unbegun (gs ++ [⟨t.session, now, i⟩]) ((t.consume m).act now i) := by
  obtain ⟨hfresh, hposts⟩ := h.fresh.act hb m now
  have hother (x : String) : ¬ Stage.Fails x ⟨t.session, now, i⟩ := by
    rintro ⟨r, rfl, -⟩
    obtain ⟨k, q, -, hq, -⟩ := reply_of_input? hi
    simp [h.fresh.unanswered] at hq
  constructor
  · exact hfresh
  · simp [h.bodies, Stage.bodies, Stage.outcome, hposts]
  · rw [handedOver_append, h.texts, handedOver_singleton]
    simp [Stage.outcome, hposts]
  · intro x
    rw [broken_concat]
    simp [hother x, h.sound x]

theorem Unbegun.apart {start : Nat} (h : Unbegun gs t) (hi : t.input? m = some (.connect start))
    (hb : t.session.begins (.connect start)) (now : Nat) :
    Apart (start + 1) (gs ++ [⟨t.session, now, .connect start⟩])
      ((t.consume m).act now (.connect start)) := by
  have hwritten := Written.begun hb h.bodies h.texts now
  obtain ⟨hnodup, hknown⟩ :=
    waiting_act hi (by simp [h.fresh.waiting]) (by simp [h.fresh.waiting]) hwritten.nodup
  exact ⟨session_act m now (.connect start) t ▸ hwritten, hnodup, hknown⟩

theorem Unbegun.begun {start : Nat} (h : Unbegun gs t) (hi : t.input? m = some (.connect start))
    (hb : t.session.begins (.connect start)) (now : Nat) :
    Gated (start + 1) (gs ++ [⟨t.session, now, .connect start⟩])
      ((t.consume m).act now (.connect start)) := by
  have hsession := session_act m now (.connect start) t
  have hapart := h.apart hi hb now
  have hretrying : (t.session.connect now start).session.retrying = [] := retrying_of_begins hb now
  constructor
  · rw [hsession]
    exact active_of_begins hb now
  · exact hapart.written
  · exact hapart.nodup
  · exact hapart.known
  · intro x hx
    obtain ⟨a, ha, sid, halarm⟩ := mem_retries.1 hx
    rcases retry_of_mem_armed hi ha halarm with ⟨b, hb, -⟩ | ⟨⟨q, hq, -⟩, -⟩
    · simp [h.fresh.armed] at hb
    · simp [h.fresh.unanswered] at hq
  · rw [hsession]
    exact hretrying ▸ List.nodup_nil
  · intro x
    have hother : ¬ Stage.Fails x ⟨t.session, now, .connect start⟩ := by
      rintro ⟨r, hi, -⟩
      cases hi
    rw [hsession, broken_concat, Session.step, hretrying]
    simp [hother, h.sound x]

/-- **A step of the session** keeps its requests apart, and the broken ones among them marked. -/
theorem Gated.step (h : Gated first gs t) (hi : t.input? m = some i) (hb : t.session.begins i = false)
    (hc : i.isConnect = false) (ha : (t.session.step now i).session.active) :
    Gated first (gs ++ [⟨t.session, now, i⟩]) ((t.consume m).act now i) := by
  have hsession := session_act m now i t
  have hapart := Apart.step ⟨h.written, h.nodup, h.known⟩ hi hb ha
  have hmarked := step_marked hb hc h.active ha
  constructor
  · rw [hsession]
    exact ha
  · exact hapart.written
  · exact hapart.nodup
  · exact hapart.known
  · intro x hx
    obtain ⟨a, harmed, sid, halarm⟩ := mem_retries.1 hx
    rw [hsession]
    rcases retry_of_mem_armed hi harmed halarm with ⟨b, hb, -, hbalarm⟩ | ⟨-, -, hfailed⟩
    · have hbefore : x ∈ t.retries := mem_retries.2 ⟨b, hb, sid, hbalarm⟩
      have hretrying := h.retries x hbefore
      cases hmarked with
      | kept _ retrying => rwa [retrying]
      | answered request r body input _ retrying =>
        -- the request that is answered waited for its reply, and so not for its retry
        subst input
        obtain ⟨k, q, -, hq, hrequest⟩ := reply_of_input? hi
        have hmem : q.text ∈ t.unanswered.map Handed.text := List.mem_map_of_mem (List.mem_of_getElem? hq)
        have hne := (List.nodup_append.1 h.nodup).2.2 q.text hmem x hbefore
        rw [retrying]
        exact (List.mem_erase_of_ne (hrequest ▸ hne.symm)).2 hretrying
      | failed _ _ _ _ _ retrying =>
        rw [retrying]
        exact mem_retrying_failed.2 (.inl hretrying)
    · rw [hfailed]
      exact mem_retrying_failed.2 (.inr rfl)
  · rw [hsession]
    cases hmarked with
    | kept _ retrying => exact retrying ▸ h.marks
    | answered request _ _ _ _ retrying => exact retrying ▸ h.marks.erase request
    | failed request _ _ _ _ retrying => exact retrying ▸ nodup_failed h.marks request
  · intro x
    rw [hsession]
    exact mem_retrying_iff_broken h.marks (h.broken x) hmarked

/-- **In a run with a single session** that was asked for, its requests are apart as long as it is active,
however often the client asks for a session meanwhile. -/
theorem apart_run (settings : Option Settings) (timings : Timings) (ms : List (Nat × Move))
    (hresume : ∀ g ∈ stages ms (start settings timings), g.input.isResume = false)
    (hone : ((start settings timings).run ms).count ≤ 1)
    (ha : ((start settings timings).run ms).session.active) :
    ∃ first, Apart first (stages ms (start settings timings)) ((start settings timings).run ms) := by
  let P (gs : List Stage) (t : Traffic) : Prop := (∀ g ∈ gs, g.input.isResume = false) → t.count ≤ 1 →
    (t.count = 0 → Unbegun gs t) ∧ (t.session.active → ∃ first, Apart first gs t)
  have hstart : P [] (start settings timings) :=
    fun _ _ => ⟨fun _ => ⟨.start settings timings, rfl, rfl, fun _ => not_since_nil⟩, by simp [start]⟩
  suffices hrun : P ([] ++ stages ms (start settings timings)) ((start settings timings).run ms) from
    (hrun hresume hone).2 ha
  refine stages_induction (P := P) ?_ hstart ms
  intro gs t now m i h hi hresume hone
  rw [List.forall_mem_append, List.forall_mem_singleton] at hresume
  have hcount : ((t.consume m).act now i).count = t.countAfter i := countAfter_consume m i t
  rw [hcount] at hone ⊢
  obtain ⟨hunbegun, hapart⟩ := h hresume.1 (Nat.le_trans (le_countAfter i t) hone)
  rw [session_act]
  cases hb : t.session.begins i with
  | true =>
    simp only [countAfter, hb, if_true] at hone ⊢
    obtain ⟨start, rfl⟩ : ∃ start, i = .connect start := by
      cases i with
      | connect start => exact ⟨start, rfl⟩
      | resume stream => cases hresume.2
      | _ => cases hb
    exact ⟨by omega, fun _ => ⟨start + 1, (hunbegun (by omega)).apart hi hb now⟩⟩
  | false =>
    rw [countAfter_of_not_begins hb]
    refine ⟨fun hzero => (hunbegun hzero).step hi hb now, fun hactive => ?_⟩
    -- A step that begins no session leaves only one active that was active before.
    have hbefore : t.session.active := by
      cases step_course hb now with
      | keep active => exact active ▸ hactive
      | stop active => simp [active] at hactive
      | establish _ _ _ before => exact before
    obtain ⟨first, h⟩ := hapart hbefore
    exact ⟨first, h.step hi hb hactive⟩

/-- What a history with one session has come to. -/
inductive Standing (gs : List Stage) (t : Traffic) : Prop
  | unbegun (unbegun : Unbegun gs t)
  | active (once : connects gs = 1) (first : Nat) (gated : Gated first gs t)
  | ended (once : connects gs = 1) (inactive : t.session.active = false)

theorem Single.init (h : Single (gs ++ [g])) : Single gs := by
  obtain ⟨honce, hresume⟩ := h
  rw [connects_concat] at honce
  exact ⟨by omega, fun g hg => hresume g (List.mem_append_left _ hg)⟩

theorem Single.of_once (h : Single (gs ++ [g])) (honce : connects gs = 1) :
    g.input.isConnect = false ∧ g.input.isResume = false ∧
      connects (gs ++ [g]) = 1 := by
  obtain ⟨hle, hresume⟩ := h
  rw [connects_concat, honce] at hle ⊢
  cases hc : g.input.isConnect with
  | true => simp [hc] at hle
  | false => exact ⟨rfl, hresume g (by simp), rfl⟩

theorem Standing.step (h : Standing gs t) (hs : Single (gs ++ [⟨t.session, now, i⟩]))
    (hi : t.input? m = some i) :
    Standing (gs ++ [⟨t.session, now, i⟩]) ((t.consume m).act now i) := by
  have hresume : i.isResume = false := hs.2 ⟨t.session, now, i⟩ (by simp)
  cases h with
  | unbegun unbegun =>
    cases hb : t.session.begins i with
    | false => exact .unbegun (unbegun.step hi hb now)
    | true =>
      obtain ⟨start, rfl⟩ : ∃ start, i = .connect start := by
        cases i with
        | connect start => exact ⟨start, rfl⟩
        | resume stream => cases hresume
        | _ => cases hb
      have honce : connects (gs ++ [⟨t.session, now, .connect start⟩]) = 1 := by
        have hle := hs.1
        simp only [connects_concat, Input.isConnect, Bool.toNat_true] at hle ⊢
        omega
      exact .active honce (start + 1) (unbegun.begun hi hb now)
  | active once first gated =>
    obtain ⟨hc, -, honce⟩ := hs.of_once once
    have hb := not_begins_of_active gated.active hresume
    cases ha : (t.session.step now i).session.active with
    | true => exact .active honce first (gated.step hi hb hc ha)
    | false => exact .ended honce (by rw [session_act, ha])
  | ended once inactive =>
    obtain ⟨hc, -, honce⟩ := hs.of_once once
    have hb : t.session.begins i = false := by
      cases i with
      | connect start => cases hc
      | resume stream => cases hresume
      | _ => rfl
    refine .ended honce ?_
    rw [session_act]
    cases step_course hb now with
    | keep active => rw [active, inactive]
    | stop active => exact active
    | establish _ _ _ before => simp [inactive] at before

/-- **Every history with one session** comes to one of these. -/
theorem standing_run (settings : Option Settings) (timings : Timings) (ms : List (Nat × Move))
    (hs : Single (stages ms (start settings timings))) :
    Standing (stages ms (start settings timings)) ((start settings timings).run ms) := by
  have hrun : Single ([] ++ stages ms (start settings timings)) →
      Standing ([] ++ stages ms (start settings timings)) ((start settings timings).run ms) := by
    apply stages_induction (P := fun gs t => Single gs → Standing gs t)
    · intro gs t now m i h hi hs
      exact (h hs.init).step hs hi
    · intro _
      exact .unbegun ⟨.start settings timings, rfl, rfl, fun x => not_since_nil⟩
  exact hrun hs

/-- What is handed over while requests are being repeated is one of them, or forced out. -/
theorem Gated.repeated_or_forced (h : Gated first gs t) (hi : t.input? m = some i)
    (hresume : i.isResume = false) {q : Request} (hq : q ∈ (t.session.step now i).posts)
    (hbusy : t.session.retrying ≠ [] ∨ (t.session.step now i).session.retrying ≠ []) :
    (i.isRetry ∧ q.text ∈ t.session.retrying ∧ q.text ∈ handedOver false gs) ∨
      Forced i t.session q := by
  cases hr : i.isRetry with
  | true =>
    obtain ⟨request, sid, rfl⟩ := Input.exists_of_isRetry hr
    obtain ⟨k, a, -, ha, halarm⟩ := fire_of_input? hi
    have hretries : request ∈ t.retries := mem_retries.2 ⟨a, List.mem_of_getElem? ha, sid, halarm⟩
    have htext : q.text = request := (fire_retry_carried now request sid t.session).2 q hq
    rw [htext]
    exact .inl ⟨rfl, h.retries request hretries, h.known request (List.mem_append_right _ hretries)⟩
  | false =>
    rcases admitted hr hq with hforced | ⟨hb, -⟩ | ⟨⟨-, hnone⟩, hafter⟩
    · exact .inr hforced
    · simp [not_begins_of_active h.active hresume] at hb
    · rw [hafter, hnone] at hbusy
      simp at hbusy

/-- **The gate is exact.** While the only session of a run is active, the requests that are being repeated
are those that have gone wrong and have not been answered since, whatever else has happened in between.
No two of its requests are alike, and each has at most one copy that waits for its reply or for its retry.
Whatever is handed over while some are being repeated is one of them, letter by letter, unless it puts the
session aside or ends it. -/
theorem gated_of_single (settings : Option Settings) (timings : Timings) (ms : List (Nat × Move))
    (hs : Single (stages ms (start settings timings)))
    (ha : ((start settings timings).run ms).session.active) :
    let gs := stages ms (start settings timings)
    let t := (start settings timings).run ms
    (∀ x, x ∈ t.session.retrying ↔ Broken x gs) ∧ (t.session.hasErrors ↔ ∃ x, Broken x gs) ∧
      (handedOver false gs).Nodup ∧ t.waiting.Nodup ∧
      ∀ now m i, t.input? m = some i → i.isResume = false →
        ∀ q ∈ (t.session.step now i).posts,
          t.session.retrying ≠ [] ∨ (t.session.step now i).session.retrying ≠ [] →
          (i.isRetry ∧ q.text ∈ t.session.retrying ∧ q.text ∈ handedOver false gs) ∨
            Forced i t.session q := by
  intro gs t
  obtain ⟨first, h⟩ : ∃ first, Gated first gs t := by
    cases standing_run settings timings ms hs with
    | unbegun unbegun => simp [unbegun.fresh.active] at ha
    | active _ first gated => exact ⟨first, gated⟩
    | ended _ inactive => simp [inactive] at ha
  have herrors : t.session.hasErrors ↔ ∃ x, x ∈ t.session.retrying := by
    rw [hasErrors, Bool.not_eq_true', List.isEmpty_eq_false_iff_exists_mem]
  refine ⟨h.broken, ?_, h.written.nodup, h.nodup, ?_⟩
  · simp only [herrors, h.broken]
  · exact fun now m i hi hresume q hq => h.repeated_or_forced hi hresume hq

/-- Both of two requests go wrong, and one of them is handed over again and answered. The other is still
being repeated, and a stanza that is sent meanwhile waits. -/
theorem gated_of_two_failures :
    let settings : Settings := { httpBase := "http://localhost/", hostName := "localhost" }
    let stanza : Xml.Element := { tag := { name := "message", ns := "jabber:client" } }
    let content := "<body xmlns='http://jabber.org/protocol/httpbind' sid='s'/>"
    let ms : List (Nat × Move) := [(0, .call (.connect 0)), (0, .call (.send stanza)),
      (0, .reply 0 (.failure .timeout)), (0, .reply 0 (.failure .timeout)), (2000, .fire 1),
      (2000, .reply 0 (.response 200 content)), (2000, .call (.send stanza))]
    let gs := stages ms (start (some settings) {})
    let t := (start (some settings) {}).run ms
    Single gs ∧ t.session.active ∧ t.session.retrying = (handedOver false gs).drop 1 ∧
      t.session.retrying.length = 1 ∧ ∀ x ∈ t.session.retrying, Broken x gs := by
  intro settings stanza content ms gs t
  have hrun : Single gs ∧ t.session.active ∧ t.session.retrying = (handedOver false gs).drop 1 ∧
      t.session.retrying.length = 1 := by decide +kernel
  obtain ⟨hs, ha, hretrying, hone⟩ := hrun
  obtain ⟨hbroken, -⟩ := gated_of_single (some settings) {} ms hs ha
  exact ⟨hs, ha, hretrying, hone, fun x hx => (hbroken x).1 hx⟩

end Traffic

end XmppBosh.Bosh
