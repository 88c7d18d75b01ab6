import XmppBosh.Proofs.Bosh.Capacity
import XmppBosh.Proofs.Bosh.Gate
import XmppBosh.Proofs.Bosh.Isolation
import XmppBosh.Proofs.Bosh.Promptness

/-!
# Replies that come at the same time

Several requests may be unanswered, and their replies come in any order. Each takes a request off the
count or marks it as one to be repeated, and what is pending goes out once none is unanswered. As long as
the session bears them all, it does not matter which comes first.

* `Reply.isGentle` : the replies that do not end a session by themselves;
* `Session.noted` : the session after such a reply, before it sees to what is pending;
* `Alike` : sessions that differ only in the order of the requests that are being repeated;
  `noted_comm` : two replies to different requests may change places;
* `Traffic.settleAll` : replies one after the other, each with all that follows from it of itself;
* `Bears` : replies to unanswered requests that the session survives together;
* `settleAll_eq` : the session notes them all, and sees to what is pending at the end;
* `settleAll_comm` : so their order does not matter.
-/

namespace XmppBosh.Bosh

open Xml

/-- Whether a reply does not end a session by itself: the request went wrong, or its answer is a body that
does not say so. -/
def Reply.isGentle (r : Reply) : Bool :=
  match r.reading with
  | .body body => !Session.isTerminal body
  | .gone _ => false
  | .bad _ => true

/-- Nothing differs but the order of the requests that are being repeated. -/
structure Alike (s t : Session) : Prop where
  retrying : t.retrying.Perm s.retrying
  rest : t = { s with retrying := t.retrying }

namespace Session

variable {s t : Session} {request request' : String} {r r' : Reply} {now : Nat}

/-! ## Noting replies -/

/-- The session after a gentle reply, before it sees to what is pending. -/
def noted (request : String) (r : Reply) (s : Session) : Session :=
  if r.reading.isBad then s.failed request else s.accept request

@[simp] theorem active_noted (request : String) (r : Reply) (s : Session) :
    (s.noted request r).active = s.active := by
  unfold noted
  split <;> rfl

@[simp] theorem stream_noted (request : String) (r : Reply) (s : Session) :
    (s.noted request r).stream = s.stream := by
  unfold noted
  split <;> rfl

@[simp] theorem timings_noted (request : String) (r : Reply) (s : Session) :
    (s.noted request r).timings = s.timings := by
  unfold noted
  split <;> rfl

@[simp] theorem errors_noted (request : String) (r : Reply) (s : Session) :
    (s.noted request r).errors = s.errors + r.reading.isBad.toNat := by
  unfold noted
  split <;> simp_all [failed, accept]

theorem le_outstanding_noted (request : String) (r : Reply) (s : Session) :
    s.outstanding ≤ (s.noted request r).outstanding + 1 := by
  unfold noted
  split
  · exact Nat.le_succ _
  · show s.outstanding ≤ s.outstanding - 1 + 1
    omega

end Session

namespace Alike

open Session

variable {s t u : Session} {request request' : String} {r r' : Reply} {now : Nat}

theorem refl (s : Session) : Alike s s := ⟨.refl _, rfl⟩

theorem trans (h : Alike s t) (h' : Alike t u) : Alike s u := by
  refine ⟨h'.retrying.trans h.retrying, ?_⟩
  rw [h'.rest, h.rest]

theorem failed (h : Alike s t) (request : String) : Alike (s.failed request) (t.failed request) := by
  obtain ⟨hperm, hrest⟩ := h
  rw [hrest]
  have hmem : request ∈ t.retrying ↔ request ∈ s.retrying := hperm.mem_iff
  by_cases hx : request ∈ s.retrying
  · have hx' := hmem.2 hx
    exact ⟨by simpa [Session.failed, hx, hx'] using hperm, by simp [Session.failed, hx, hx']⟩
  · have hx' := mt hmem.1 hx
    exact ⟨by simpa [Session.failed, hx, hx'] using hperm.append_right [request],
      by simp [Session.failed, hx, hx']⟩

theorem accept (h : Alike s t) (request : String) : Alike (s.accept request) (t.accept request) := by
  obtain ⟨hperm, hrest⟩ := h
  rw [hrest]
  exact ⟨hperm.erase request, rfl⟩

theorem noted (h : Alike s t) (request : String) (r : Reply) :
    Alike (s.noted request r) (t.noted request r) := by
  unfold Session.noted
  split
  · exact h.failed request
  · exact h.accept request

theorem keepOpen (h : Alike s t) (now : Nat) :
    Alike (s.keepOpen now).session (t.keepOpen now).session ∧
      (t.keepOpen now).effects = (s.keepOpen now).effects := by
  have hempty : t.retrying.isEmpty = s.retrying.isEmpty := by
    rw [Bool.eq_iff_iff, List.isEmpty_iff, List.isEmpty_iff]
    exact ⟨fun ht => (ht ▸ h.retrying).symm.eq_nil, fun hs => (hs ▸ h.retrying).eq_nil⟩
  obtain ⟨hperm, hrest⟩ := h
  generalize t.retrying = retrying at hempty hperm hrest
  subst hrest
  have hmay : ({ s with retrying } : Session).maySend = s.maySend :=
    congrArg (s.dispatching = 0 && s.active && decide (s.outstanding < s.maxRequests) && ·) hempty
  have hflush : ({ s with retrying } : Session).flush now =
      { s.flush now with session := { (s.flush now).session with retrying } } := by
    rcases flush_cases now s with ⟨hidle, hf⟩ | ⟨settings, body, hm, hs, hb, hf⟩
    · rw [hf, flush, hmay]
      rcases hidle with hidle | hidle
      · simp [hidle]
      · simp [release_none (s := { s with retrying }) hidle]
    · rw [hf, flush, hmay, if_pos hm, release_eq (s := { s with retrying }) hs hb]
      rfl
  have hkeep : ({ s with retrying } : Session).keepOpen now =
      { s.keepOpen now with session := { (s.keepOpen now).session with retrying } } := by
    obtain ⟨_, _, stream, _⟩ := s
    unfold Session.keepOpen
    rw [hflush]
    cases stream with
    | none => rfl
    | some stream =>
      dsimp only
      split
      · split <;> rfl
      · rfl
  rw [hkeep]
  exact ⟨⟨(keepOpen_frame now s).retrying ▸ hperm, rfl⟩, rfl⟩

end Alike

namespace Session

variable {s : Session} {request request' : String} {r r' : Reply}

/-! ## Changing places -/

theorem failed_comm (request request' : String) (s : Session) :
    Alike ((s.failed request).failed request') ((s.failed request').failed request) := by
  by_cases heq : request = request'
  · subst heq
    exact .refl _
  · refine ⟨?_, rfl⟩
    by_cases hx : request ∈ s.retrying <;> by_cases hx' : request' ∈ s.retrying <;>
      simp [failed, hx, hx', heq, Ne.symm heq]
    exact (List.Perm.swap ..).append_left s.retrying

/-- A request that is answered and one that goes wrong are not in each other's way. -/
theorem accept_failed (hne : request ≠ request') (s : Session) :
    (s.failed request').accept request = (s.accept request).failed request' := by
  have hmem : request' ∈ s.retrying.erase request ↔ request' ∈ s.retrying :=
    List.mem_erase_of_ne hne.symm
  by_cases hx : request' ∈ s.retrying
  · simp [accept, failed, hx, hmem]
  · have herase : (s.retrying ++ [request']).erase request = s.retrying.erase request ++ [request'] := by
      rw [List.erase_append]
      split
      · rfl
      · next hn => simp [List.erase_of_not_mem hn, hne]
    simp [accept, failed, hx, hmem, herase]

theorem accept_comm (request request' : String) (s : Session) :
    (s.accept request).accept request' = (s.accept request').accept request := by
  simp [accept, List.erase_comm]

/-- **Two replies to different requests** may change places. -/
theorem noted_comm (hne : request ≠ request') (r r' : Reply) (s : Session) :
    Alike ((s.noted request r).noted request' r') ((s.noted request' r').noted request r) := by
  unfold noted
  cases r.reading.isBad <;> cases r'.reading.isBad
  · exact accept_comm request request' s ▸ .refl _
  · exact accept_failed hne s ▸ .refl _
  · exact (accept_failed hne.symm s).symm ▸ .refl _
  · exact failed_comm request request' s

end Session

namespace Traffic

open Session

/-! ## Settling replies -/

/-- Replies one after the other, each with all that follows from it of itself. -/
def settleAll (now : Nat) : List (Handed × Reply) → Traffic → List (Nat × Move)
  | [], _ => []
  | (q, r) :: l, t =>
    let ms := t.settle now (t.unanswered.idxOf q) r
    ms ++ settleAll now l (t.run ms)

def failures (l : List (Handed × Reply)) : Nat := l.countP (·.2.reading.isBad)

/-- Replies to unanswered requests, one each at most, that a session survives together: none of them ends
it by itself, and there is time for all that go wrong. -/
structure Bears (l : List (Handed × Reply)) (t : Traffic) : Prop where
  known : ∀ p ∈ l, p.1 ∈ t.unanswered
  nodup : (l.map Prod.fst).Nodup
  gentle : ∀ p ∈ l, p.2.isGentle
  budget : failures l ≠ 0 →
    t.session.timings.retryDelay * (t.session.errors + failures l) ≤ t.session.errorTimeout

def notedAll (l : List (Handed × Reply)) (s : Session) : Session :=
  l.foldl (fun s p => s.noted p.1.text p.2) s

variable {t : Traffic} {q : Handed} {r : Reply} {now k : Nat} {l l' : List (Handed × Reply)}
  {s s' : Session}

@[simp] theorem active_notedAll (l : List (Handed × Reply)) (s : Session) :
    (notedAll l s).active = s.active := by
  induction l generalizing s with
  | nil => rfl
  | cons p l ih => rw [notedAll, List.foldl_cons, ← notedAll, ih, active_noted]

/-- **A gentle reply** is noted, and then the session sees to what is pending. -/
theorem settle_gentle (hq : t.unanswered[k]? = some q) (ha : t.session.active)
    (hsid : t.session.sid?.isSome) (hr : r.isGentle)
    (hx : r.reading.isBad → t.session.isExhausted = false) (ho : t.session.outstanding ≠ 0) (now : Nat) :
    (t.run (t.settle now k r)).session = ((t.session.noted q.text r).keepOpen now).session ∧
      requests (stages (t.settle now k r) t) = ((t.session.noted q.text r).keepOpen now).posts := by
  cases hreading : r.reading with
  | gone content => simp [Reply.isGentle, hreading] at hr
  | bad reason =>
    have hc : t.session.carried? r = none := by simp [carried?_eq, hreading, Reading.body?]
    have hnoted : t.session.noted q.text r = t.session.failed q.text := by
      simp [noted, hreading, Reading.isBad]
    have hbusy : (t.session.failed q.text).outstanding ≠ 0 := ho
    obtain ⟨hs, hg⟩ := settle_of_carried?_none hq hc now
    have hanswer := answer_bad ha hreading now q.text
    rw [fail_eq ha, hx (by simp [hreading, Reading.isBad])] at hanswer
    rw [hs, hg, hanswer, hnoted, keepOpen_of_busy hbusy]
    exact ⟨rfl, by simp [requests, Stage.outcome, Session.step, hanswer]⟩
  | body body =>
    have ht : isTerminal body = false := by simpa [Reply.isGentle, hreading] using hr
    have hc : t.session.carried? r = some body := by simp [carried?_eq, ha, hreading, Reading.body?]
    have hnoted : t.session.noted q.text r = t.session.accept q.text := by
      simp [noted, hreading, Reading.isBad]
    obtain ⟨hs, hg⟩ := settle_of_carried? hq hc now
    have hanswer := answer_body ha hreading now q.text
    have hopen := openBody_further (s := t.session.accept q.text) ha ht (.inr hsid)
    rw [hs, hg, hnoted, hopen]
    simp [ht, closeBody_after, requests, Stage.outcome, Session.step, hanswer, hopen]

/-- A move that is not a reply leaves the unanswered requests when it hands nothing over. -/
theorem unanswered_step {m : Move} (hm : ∀ k r, m ≠ .reply k r) (hnone : requests (stages [(now, m)] t) = []) :
    (t.step now m).unanswered = t.unanswered := by
  cases hi : t.input? m with
  | none => rw [step_none hi]
  | some i =>
    have hposts : (t.session.step now i).posts = [] := by
      simpa [requests, stages, hi, Stage.outcome] using hnone
    have hconsume : (t.consume m).unanswered = t.unanswered := by
      cases m with
      | reply k r => exact absurd rfl (hm k r)
      | _ => rfl
    rw [step_some hi, act, unanswered_deliver, session_consume, hposts, hconsume]
    simp

/-- A reply takes its request, and only this, when nothing is handed over. -/
theorem unanswered_settle (hq : t.unanswered[k]? = some q)
    (hnone : requests (stages (t.settle now k r) t) = []) :
    (t.run (t.settle now k r)).unanswered = t.unanswered.eraseIdx k := by
  have hsplit : stages (t.settle now k r) t = stages [(now, .reply k r)] t ++
      (stages [(now, .openBody t.arrived.length)] (t.step now (.reply k r)) ++
        stages [(now, .closeBody t.opened.length)]
          ((t.step now (.reply k r)).step now (.openBody t.arrived.length))) := by
    simp [settle, stages]
  rw [hsplit, requests_append, requests_append] at hnone
  obtain ⟨hreply, hnone⟩ := List.append_eq_nil_iff.1 hnone
  obtain ⟨hopen, hclose⟩ := List.append_eq_nil_iff.1 hnone
  rw [settle, run_cons, run_cons, run_cons, run_nil, unanswered_step (by simp) hclose,
    unanswered_step (by simp) hopen]
  have hi : t.input? (.reply k r) = some (.answer q.text r) := by simp [input?, hq]
  have hposts : (t.session.step now (.answer q.text r)).posts = [] := by
    simpa [requests, stages, hi, Stage.outcome] using hreply
  rw [step_some hi, act, unanswered_deliver, session_consume, hposts]
  simp [consume]

/-! ## Bearing replies -/

theorem failures_cons (q : Handed) (r : Reply) (l : List (Handed × Reply)) :
    failures ((q, r) :: l) = failures l + r.reading.isBad.toNat := by
  simp only [failures, List.countP_cons]
  cases r.reading.isBad <;> rfl

theorem Bears.perm (h : Bears l t) (hp : l.Perm l') : Bears l' t where
  known p hm := h.known p (hp.mem_iff.2 hm)
  nodup := (hp.map Prod.fst).nodup_iff.1 h.nodup
  gentle p hm := h.gentle p (hp.mem_iff.2 hm)
  budget := by
    have hcount : failures l' = failures l := (hp.countP_eq _).symm
    exact hcount ▸ h.budget

theorem Bears.not_exhausted (h : Bears ((q, r) :: l) t) (hbad : r.reading.isBad) :
    t.session.isExhausted = false := by
  have hcount := failures_cons q r l
  have hone : r.reading.isBad.toNat = 1 := by simp [hbad]
  have hbudget := h.budget (by omega)
  have hle : t.session.timings.retryDelay * (t.session.errors + 1) ≤
      t.session.timings.retryDelay * (t.session.errors + failures ((q, r) :: l)) :=
    Nat.mul_le_mul_left _ (by omega)
  rw [Session.isExhausted, decide_eq_false_iff_not]
  omega

theorem Bears.tail {t' : Traffic} (h : Bears ((q, r) :: l) t)
    (hs : t'.session = t.session.noted q.text r) (hu : t'.unanswered = t.unanswered.erase q) :
    Bears l t' := by
  obtain ⟨hnot, hnodup⟩ := List.nodup_cons.1 h.nodup
  refine ⟨fun p hp => ?_, hnodup, fun p hp => h.gentle p (List.mem_cons_of_mem _ hp), fun hf => ?_⟩
  · have hne : p.1 ≠ q := by
      rintro rfl
      exact hnot (List.mem_map.2 ⟨p, hp, rfl⟩)
    rw [hu]
    exact (List.mem_erase_of_ne hne).2 (h.known p (List.mem_cons_of_mem _ hp))
  · have hcount := failures_cons q r l
    have hbudget := h.budget (by omega)
    have hsum : t.session.errors + r.reading.isBad.toNat + failures l =
        t.session.errors + failures ((q, r) :: l) := by omega
    have htimeout : (t.session.noted q.text r).errorTimeout = t.session.errorTimeout := by
      simp only [errorTimeout, stream_noted, timings_noted]
    rw [hs, timings_noted, errors_noted, hsum, htimeout]
    exact hbudget

/-- **Replies that are borne** are noted one after the other, and what is pending is seen to once, after
the last. -/
theorem settleAll_eq (hl : l ≠ []) (hb : Bears l t) (ha : t.session.active) (hsid : t.session.sid?.isSome)
    (ho : l.length ≤ t.session.outstanding) (now : Nat) :
    (t.run (t.settleAll now l)).session = ((notedAll l t.session).keepOpen now).session ∧
      requests (stages (t.settleAll now l) t) = ((notedAll l t.session).keepOpen now).posts := by
  induction l generalizing t with
  | nil => cases hl rfl
  | cons p l ih =>
    obtain ⟨q, r⟩ := p
    rw [List.length_cons] at ho
    have hknown : q ∈ t.unanswered := hb.known (q, r) (List.mem_cons_self ..)
    have hq : t.unanswered[t.unanswered.idxOf q]? = some q := List.getElem?_idxOf hknown
    obtain ⟨hs, hrequests⟩ := settle_gentle hq ha hsid (hb.gentle (q, r) (List.mem_cons_self ..))
      hb.not_exhausted (by omega) now
    rw [settleAll, run_append, stages_append, requests_append]
    by_cases hnil : l = []
    · subst hnil
      simpa [settleAll, stages, requests, notedAll] using And.intro hs hrequests
    · -- Another request is unanswered, so that nothing is seen to yet.
      have hpos := List.length_pos_of_ne_nil hnil
      have hle := le_outstanding_noted q.text r t.session
      have hbusy : (t.session.noted q.text r).outstanding ≠ 0 := by omega
      rw [keepOpen_of_busy hbusy] at hs hrequests
      have hu : (t.run (t.settle now (t.unanswered.idxOf q) r)).unanswered = t.unanswered.erase q := by
        rw [unanswered_settle hq hrequests, List.erase_eq_eraseIdx_of_idxOf rfl]
      have hle' : l.length ≤ (t.session.noted q.text r).outstanding := by omega
      obtain ⟨hs', hrequests'⟩ := ih hnil (hb.tail hs hu) (by rw [hs, active_noted]; exact ha)
        (by rw [hs, sid?, stream_noted]; exact hsid) (hs ▸ hle')
      rw [hs', hrequests', hrequests, hs]
      exact ⟨rfl, rfl⟩

/-! ## Changing the order -/

theorem notedAll_congr (h : Alike s s') (l : List (Handed × Reply)) :
    Alike (notedAll l s) (notedAll l s') := by
  induction l generalizing s s' with
  | nil => exact h
  | cons p l ih => exact ih (h.noted p.1.text p.2)

theorem notedAll_perm (hp : l.Perm l') (hn : (l.map (·.1.text)).Nodup) (s : Session) :
    Alike (notedAll l s) (notedAll l' s) := by
  induction hp generalizing s with
  | nil => exact .refl s
  | cons p _ ih => exact ih (List.nodup_cons.1 hn).2 (s.noted p.1.text p.2)
  | swap p p' l =>
    have hne : p'.1.text ≠ p.1.text := by
      intro heq
      simp [heq] at hn
    exact notedAll_congr (noted_comm hne p'.2 p.2 s) l
  | trans hp _ ih ih' => exact (ih hn s).trans (ih' ((hp.map _).nodup_iff.1 hn) s)

/-- **Replies may come in any order.** In a run with a single session that was asked for and has its
identifier, let some of the requests that are unanswered get replies that the session bears. In whichever
order they come, the session goes on, nothing of it is left different but the order of the requests that
are being repeated, and the same requests are handed over. -/
theorem settleAll_comm (settings : Option Settings) (timings : Timings) (ms : List (Nat × Move))
    (hresume : ∀ g ∈ stages ms (start settings timings), g.input.isResume = false)
    (hone : ((start settings timings).run ms).count ≤ 1)
    (hsid : ((start settings timings).run ms).session.sid?.isSome)
    (hb : Bears l ((start settings timings).run ms)) (hp : l.Perm l') (now : Nat) :
    let t := (start settings timings).run ms
    let u := t.run (t.settleAll now l)
    let u' := t.run (t.settleAll now l')
    u.session.active ∧ Alike u.session u'.session ∧
      requests (stages (t.settleAll now l') t) = requests (stages (t.settleAll now l) t) := by
  intro t u u'
  have hactive : t.session.active := by
    rw [← Bool.not_eq_false]
    intro hinactive
    simp [(sound_run settings timings ms).nameless hinactive] at hsid
  rcases eq_or_ne l [] with rfl | hl
  · obtain rfl := hp.nil_eq
    exact ⟨hactive, .refl _, rfl⟩
  · obtain ⟨first, hapart⟩ := apart_run settings timings ms hresume hone hactive
    have htexts : (t.unanswered.map Handed.text).Nodup := hapart.nodup.of_append_left
    have hnodup : (l.map (·.1.text)).Nodup := by
      have hmap : l.map (·.1.text) = (l.map Prod.fst).map Handed.text := by simp [Function.comp_def]
      rw [hmap]
      refine hb.nodup.map_on fun q hq q' hq' => ?_
      obtain ⟨p, hp, rfl⟩ := List.mem_map.1 hq
      obtain ⟨p', hp', rfl⟩ := List.mem_map.1 hq'
      exact List.inj_on_of_nodup_map htexts (hb.known p hp) (hb.known p' hp')
    -- No more requests get a reply than are counted.
    have hcount : l.length ≤ t.session.outstanding := by
      have hsub : (l.map Prod.fst).length ≤ t.unanswered.length :=
        (List.subperm_of_subset hb.nodup fun q hq => by
          obtain ⟨p, hp, rfl⟩ := List.mem_map.1 hq
          exact hb.known p hp).length_le
      have hcovered : t.waiting.length ≤ t.session.outstanding :=
        (covered_run settings timings ms).2 hone
      simp only [waiting, List.length_append, List.length_map] at hsub hcovered
      omega
    obtain ⟨hs, hrequests⟩ := settleAll_eq hl hb hactive hsid hcount now
    obtain ⟨hs', hrequests'⟩ := settleAll_eq (fun h => hl (h ▸ hp).eq_nil) (hb.perm hp) hactive hsid
      (hp.length_eq ▸ hcount) now
    have hnoted := (notedAll_perm hp hnodup t.session).keepOpen now
    refine ⟨?_, ?_, ?_⟩
    · rw [hs, (keepOpen_frame now _).active, active_notedAll]
      exact hactive
    · rw [hs, hs']
      exact hnoted.1
    · rw [hrequests, hrequests', Outcome.posts, hnoted.2, Outcome.posts]

/-- Two requests are unanswered and a stanza waits. One request is answered and the other goes wrong, in
either order: the stanza goes on waiting. When both are answered, it goes out after the second. -/
theorem settleAll_comm_of_two :
    let settings : Settings := { httpBase := "http://localhost/", hostName := "localhost" }
    let stanza : Xml.Element := { tag := { name := "message", ns := "jabber:client" } }
    let r : Reply := .response 200 "<body xmlns='http://jabber.org/protocol/httpbind' sid='s'/>"
    let ms : List (Nat × Move) := [(0, .call (.connect 0)), (0, .reply 0 r), (0, .openBody 0),
      (0, .closeBody 0), (0, .call (.send stanza)), (0, .call (.send stanza)), (0, .call (.send stanza))]
    let t := (start (some settings) {}).run ms
    ∀ r' ∈ [r, .failure .timeout],
      let l := (t.unanswered.take 1).map (·, r) ++ (t.unanswered.drop 1).map (·, r')
      let u := t.run (t.settleAll 0 l)
      let u' := t.run (t.settleAll 0 l.reverse)
      Bears l t ∧ l.length = 2 ∧ Alike u.session u'.session ∧
        requests (stages (t.settleAll 0 l.reverse) t) = requests (stages (t.settleAll 0 l) t) ∧
        (requests (stages (t.settleAll 0 l) t)).length = if r'.reading.isBad then 0 else 1 := by
  intro settings stanza r ms t r' hr' l u u'
  have hruns : ((∀ g ∈ stages ms (start (some settings) {}), g.input.isResume = false) ∧ t.count ≤ 1 ∧
      t.session.sid?.isSome) ∧ ∀ r' ∈ [r, .failure .timeout],
      let l := (t.unanswered.take 1).map (·, r) ++ (t.unanswered.drop 1).map (·, r')
      ((∀ p ∈ l, p.1 ∈ t.unanswered) ∧ (l.map Prod.fst).Nodup ∧ (∀ p ∈ l, p.2.isGentle) ∧
        t.session.timings.retryDelay * (t.session.errors + failures l) ≤ t.session.errorTimeout) ∧
        l.length = 2 ∧
        (requests (stages (t.settleAll 0 l) t)).length = if r'.reading.isBad then 0 else 1 := by
    decide +kernel
  obtain ⟨⟨hresume, hone, hsid⟩, hreplies⟩ := hruns
  obtain ⟨⟨hknown, hnodup, hgentle, hbudget⟩, hlength, hcount⟩ := hreplies r' hr'
  have hb : Bears l t := ⟨hknown, hnodup, hgentle, fun _ => hbudget⟩
  obtain ⟨-, halike, hrequests⟩ := settleAll_comm (some settings) {} ms hresume hone hsid hb
    (List.reverse_perm l).symm 0
  exact ⟨hb, hlength, halike, hrequests, hcount⟩

end Traffic

end XmppBosh.Bosh
