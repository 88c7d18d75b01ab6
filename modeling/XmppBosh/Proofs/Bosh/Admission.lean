import XmppBosh.Proofs.Bosh.Drafts
import XmppBosh.Proofs.Bosh.Quiet

/-!
# What a session counts and what it lets go out

A session counts the requests that it hands over, and it lets go out only what its count and its errors
allow. The last body of a session, and the one that puts it aside, go out whatever the session waits for.

* `Session.settles` : the inputs that take a request off the count; `step_outstanding` : the count after a
  step;
* `Body.isParting`, `Session.forces`, `Forced` : what goes out regardless; `admitted` : anything else goes
  out only below the limit, and while nothing is being repeated;
* `Traffic.waiting` : the requests that wait for a reply or for their retry; `Turn`, `turn` : what a move
  makes of them.
-/

namespace XmppBosh.Bosh

/-- Whether a body puts its session aside or ends it. -/
def Body.isParting (b : Body) : Bool :=
  (b.attr? "pause").isSome || b.attr? "type" = some "terminate"

namespace Session

variable {s : Session} {i : Input} {now : Nat} {q : Request}

/-! ## Counting -/

/-- Whether an input takes a request off the count: for good, or because it goes out again. -/
def settles (i : Input) (s : Session) : Bool :=
  match i with
  | .answer _ r => s.active && (!r.reading.isBad || s.isExhausted)
  | .fire (.retry _ sid) => s.active && s.stream.map Stream.sid = some sid
  | _ => false

theorem pause_sends (now : Nat) (s : Session) : Sends s (s.pause now) := by
  unfold pause
  split
  · exact .idle s
  · exact .of_frame (edit_frame _ s) (outstanding_edit _ s) (.release now _)

theorem outstanding_disconnect (now : Nat) (s : Session) :
    (s.disconnect now).session.outstanding = s.outstanding + (s.disconnect now).posts.length := by
  have hrelease := (Sends.release now s.farewell).outstanding
  rw [farewell, outstanding_edit] at hrelease
  simp only [disconnect_eq, Outcome.posts, ended] at hrelease ⊢
  split
  · exact hrelease
  · rfl

theorem outstanding_giveUp (now : Nat) (reason : String) (s : Session) :
    (s.giveUp now reason).session.outstanding =
      s.outstanding - 1 + (s.giveUp now reason).posts.length :=
  outstanding_disconnect now { s with outstanding := s.outstanding - 1 }

theorem outstanding_answer (now : Nat) (request : String) (r : Reply) (s : Session) :
    (s.answer now request r).session.outstanding =
      s.outstanding - (s.settles (.answer request r)).toNat + (s.answer now request r).posts.length := by
  have h := answered now request r s
  generalize s.answer now request r = o at h ⊢
  cases h with
  | ignored ha => simp [settles, ha]
  | accepted ha body hr => simp [settles, ha, hr, Reading.isBad, accept]
  | repeated ha reason hr hx => simp [settles, hr, hx, Reading.isBad, failed]
  | gone ha content hr => simpa [settles, ha, hr, Reading.isBad] using outstanding_giveUp now _ s
  | exhausted ha reason hr hx =>
    have hgiveUp := outstanding_giveUp now ("Connection error: " ++ reason) (s.failed request)
    simpa [settles, ha, hx, failed] using hgiveUp

theorem outstanding_fire (now : Nat) (alarm : Alarm) (s : Session) :
    (s.fire now alarm).session.outstanding =
      s.outstanding - (s.settles (.fire alarm)).toNat + (s.fire now alarm).posts.length := by
  cases alarm with
  | retry request sid =>
    simp only [fire, settles]
    split
    · next h =>
      rw [h]
      exact (Sends.transmit now request { s with outstanding := s.outstanding - 1 }).outstanding
    · next h =>
      rw [Bool.eq_false_iff.2 h]
      rfl
  | continuation rid =>
    simp only [fire, settles]
    split
    · exact (Sends.flush_edit now id s).outstanding
    · rfl
  | heartbeat period =>
    simp only [fire, settles]
    split
    · exact (Sends.keepOpen now s).outstanding
    · rfl

/-- **The count after a step**: what is settled is taken off, and what is handed over comes on top. -/
theorem step_outstanding (hb : s.begins i = false) (now : Nat) :
    (s.step now i).session.outstanding =
      s.outstanding - (s.settles i).toNat + (s.step now i).posts.length := by
  cases i with
  | connect start =>
    have hc := started now start s
    simp only [step]
    generalize s.connect now start = o at hc ⊢
    cases hc with
    | refused => rfl
    | renewed => rfl
    | begun settings hs ha => simp [begins, hs, ha] at hb
  | disconnect => exact outstanding_disconnect now s
  | send stanza => exact (Sends.flush_edit now (Body.push stanza) s).outstanding
  | flush => exact (Sends.flush now s).outstanding
  | restart => exact outstanding_edit _ s
  | pause => exact (pause_sends now s).outstanding
  | resume stream => cases hb
  | setSettings settings => rfl
  | setTimings timings => rfl
  | answer request r => exact outstanding_answer now request r s
  | openBody body =>
    have ho := opened body s
    simp only [step]
    generalize s.openBody body = o at ho ⊢
    cases ho <;> rfl
  | closeBody => exact (Sends.keepOpen now { s with dispatching := s.dispatching - 1 }).outstanding
  | fire alarm => exact outstanding_fire now alarm s

/-- A session that begins counts what it hands over. -/
theorem length_posts_of_begins (hb : s.begins i) (now : Nat) :
    (s.step now i).posts.length ≤ (s.step now i).session.outstanding := by
  cases i with
  | connect start =>
    have hc := started now start s
    simp only [step]
    generalize s.connect now start = o at hc ⊢
    cases hc with
    | refused hs => simp [begins, hs] at hb
    | renewed _ ha => simp [begins, ha] at hb
    | begun settings =>
      have ho := ((Sends.flush now (s.opening settings start)).andThen (.startHeartbeat _)).outstanding
      omega
  | resume stream =>
    have hk := Sends.keepOpen now { s with active := true, stream := some stream }
    have ho := (hk.andThen (.startHeartbeat _)).outstanding
    simp only [step, resume]
    omega
  | _ => cases hb

/-! ## Letting go out -/

/-- Whether an input lets a body go out whatever the session waits for. -/
def forces (i : Input) (s : Session) : Bool :=
  match i with
  | .pause => true
  | .connect _ => false
  | i => s.discards i

/-- A request that goes out whatever the session waits for: it puts the session aside, or ends it. -/
structure Forced (i : Input) (s : Session) (q : Request) : Prop where
  forces : s.forces i
  text : q.text = (s.outgoing i).text
  parting : (s.outgoing i).isParting

theorem settings_isSome_of_mem_posts (hq : q ∈ (s.step now i).posts) : s.settings.isSome := by
  cases hs : s.settings with
  | none => simp [posts_of_no_settings hs] at hq
  | some settings => rfl

theorem isParting_outgoing (hf : s.forces i) (hq : q ∈ (s.step now i).posts) :
    (s.outgoing i).isParting := by
  cases i with
  | pause =>
    cases hmax : s.maxPause? with
    | none => simp [step, pause, hmax] at hq
    | some seconds => simp [outgoing, discards, edited, hmax, Body.isParting]
  | disconnect => simp [outgoing, discards, Body.isParting]
  | answer request r =>
    have hd : s.discards (.answer request r) := hf
    simp [outgoing, hd, Body.isParting]
  | connect start => cases hf
  | _ => cases hf

theorem forced (hf : s.forces i) (hq : q ∈ (s.step now i).posts) : Forced i s q := by
  have hi : i.isRetry = false := by
    cases i <;> first | rfl | cases hf
  exact ⟨hf, text_of_mem_posts (settings_isSome_of_mem_posts hq) hi hq, isParting_outgoing hf hq⟩

/-- The policy holds: the count is below the limit, and nothing is being repeated. -/
def Permits (s : Session) : Prop := s.outstanding < s.maxRequests ∧ s.retrying = []

theorem permits_of_mem_flush (hq : q ∈ (s.flush now).posts) : s.Permits := by
  rcases flush_cases now s with ⟨-, h⟩ | ⟨_, _, hm, -⟩
  · simp [h] at hq
  · simp only [maySend, Bool.and_eq_true, decide_eq_true_eq, List.isEmpty_iff] at hm
    exact ⟨hm.1.2, hm.2⟩

theorem permits_of_mem_keepOpen (hq : q ∈ (s.keepOpen now).posts) : s.Permits := by
  rcases keepOpen_cases now s with ⟨-, h⟩ | ⟨-, -, h⟩ | ⟨_, -, -, -, h⟩
  · simp [h] at hq
  · exact permits_of_mem_flush (h ▸ hq)
  · simp [h] at hq

theorem permits_of_mem_fire {alarm : Alarm} (hi : Input.isRetry (.fire alarm) = false)
    (hq : q ∈ (s.fire now alarm).posts) : s.Permits := by
  cases alarm with
  | retry request sid => cases hi
  | continuation rid =>
    simp only [fire] at hq
    split at hq
    · obtain ⟨hlt, hretrying⟩ := permits_of_mem_flush hq
      have hframe := edit_frame id s
      exact ⟨by rwa [outstanding_edit, hframe.maxRequests] at hlt, hframe.retrying ▸ hretrying⟩
    · cases hq
  | heartbeat period =>
    simp only [fire] at hq
    split at hq
    · exact permits_of_mem_keepOpen hq
    · cases hq

theorem permits_of_mem_begins (hb : s.begins i) (hq : q ∈ (s.step now i).posts) : 0 < s.maxRequests := by
  cases i with
  | connect start =>
    have hc := started now start s
    simp only [step] at hq
    generalize s.connect now start = o at hc hq
    cases hc with
    | refused => cases hq
    | renewed => cases hq
    | begun settings =>
      rw [Outcome.posts_andThen, posts_startHeartbeat, List.append_nil] at hq
      exact (permits_of_mem_flush hq).1
  | resume stream =>
    rw [step, resume, Outcome.posts_andThen, posts_startHeartbeat, List.append_nil] at hq
    exact Nat.zero_lt_of_lt (permits_of_mem_keepOpen hq).1
  | _ => cases hb

theorem posts_answer_of_not_discards {request : String} {r : Reply}
    (hd : s.discards (.answer request r) = false) (now : Nat) :
    (s.answer now request r).posts = [] := by
  have h := answered now request r s
  generalize s.answer now request r = o at h ⊢
  cases h with
  | ignored | accepted | repeated => rfl
  | gone ha content hr => simp [discards, ha, hr] at hd
  | exhausted ha reason hr hx => simp [discards, ha, hr, hx] at hd

/-- **What is neither repeated nor forced out** goes out only while the policy holds, and leaves it to hold
for errors, or as the first request of a session. -/
theorem admitted (hr : i.isRetry = false) (hq : q ∈ (s.step now i).posts) :
    Forced i s q ∨ (s.begins i ∧ 0 < s.maxRequests) ∨
      s.Permits ∧ (s.step now i).session.retrying = s.retrying := by
  cases i with
  | connect start =>
    cases hb : s.begins (.connect start) with
    | true => exact .inr (.inl ⟨rfl, permits_of_mem_begins hb hq⟩)
    | false =>
      have hc := started now start s
      simp only [step] at hq
      generalize s.connect now start = o at hc hq
      cases hc with
      | refused => cases hq
      | renewed => cases hq
      | begun settings hs ha => simp [begins, hs, ha] at hb
  | disconnect => exact .inl (forced rfl hq)
  | send stanza =>
    obtain ⟨hlt, hretrying⟩ := permits_of_mem_flush hq
    have hedit := edit_frame (Body.push stanza) s
    rw [outstanding_edit, hedit.maxRequests] at hlt
    exact .inr (.inr ⟨⟨hlt, hedit.retrying ▸ hretrying⟩, (hedit.trans (flush_frame now _)).retrying⟩)
  | flush => exact .inr (.inr ⟨permits_of_mem_flush hq, (flush_frame now s).retrying⟩)
  | restart => cases hq
  | pause => exact .inl (forced rfl hq)
  | resume stream => exact .inr (.inl ⟨rfl, permits_of_mem_begins (i := .resume stream) rfl hq⟩)
  | setSettings settings => cases hq
  | setTimings timings => cases hq
  | answer request r =>
    cases hd : s.discards (.answer request r) with
    | true => exact .inl (forced hd hq)
    | false => simp [step, posts_answer_of_not_discards hd] at hq
  | openBody body =>
    have ho := opened body s
    simp only [step] at hq
    generalize s.openBody body = o at ho hq
    cases ho <;> cases hq
  | closeBody =>
    have hclosed : ({ s with dispatching := s.dispatching - 1 } : Session).Permits :=
      permits_of_mem_keepOpen hq
    exact .inr (.inr ⟨hclosed, (keepOpen_frame now { s with dispatching := s.dispatching - 1 }).retrying⟩)
  | fire alarm => exact .inr (.inr ⟨permits_of_mem_fire hr hq, (fire_frame now alarm s).retrying⟩)

theorem texts_fire_retry (now : Nat) (request : String) (sid : Option String) (s : Session) :
    (s.fire now (.retry request sid)).posts.map Request.text = [] ∨
      (s.fire now (.retry request sid)).posts.map Request.text = [request] := by
  simp only [fire]
  split
  · cases s.settings <;> simp [transmit]
  · exact .inl rfl

end Session

namespace Traffic

/-! ## Waiting -/

/-- The requests that wait for a reply or for their retry. -/
def waiting (t : Traffic) : List String := t.unanswered.map Handed.text ++ t.retries

inductive Turn (t t' : Traffic) (i : Input) (o : Outcome) : Prop
  /-- What is handed over waits as well. -/
  | more (settles : t.session.settles i = false) (first : i.isRetry = false)
    (waiting : t'.waiting.Perm (t.waiting ++ o.posts.map Request.text))
  /-- A request waits no longer, but what is handed over does. -/
  | done (request : String) (mem : request ∈ t.waiting) (first : i.isRetry → o.posts = [])
    (waiting : (request :: t'.waiting).Perm (t.waiting ++ o.posts.map Request.text))
  /-- A request is handed over again. -/
  | again (request : String) (mem : request ∈ t.waiting) (retry : i.isRetry)
    (text : o.posts.map Request.text = [request]) (waiting : t'.waiting.Perm t.waiting)

variable {t : Traffic} {m : Move} {i : Input} {now n k : Nat} {o : Outcome}

theorem Fresh.waiting (h : t.Fresh) : t.waiting = [] := by
  simp [Traffic.waiting, retries, h.unanswered, h.armed]

/-- What is handed over waits, and so does what was waiting; nothing is planned to be repeated. -/
theorem waiting_deliver (now n : Nat) (t : Traffic)
    (ho : o.alarms.filterMap (fun a => a.2.repeats?) = []) :
    (t.deliver now n o).waiting.Perm (t.waiting ++ o.posts.map Request.text) := by
  rw [waiting, waiting, retries_deliver, ho, List.append_nil, unanswered_deliver, List.map_append,
    List.map_map, List.append_assoc, List.append_assoc]
  exact List.perm_append_comm.append_left _

theorem Turn.of_waiting {c : Traffic} (hs : t.session.settles i = false) (hr : i.isRetry = false)
    (hi : ∀ request r, i ≠ .answer request r) (hc : c.waiting.Perm t.waiting) (now n : Nat) :
    Turn t (c.deliver now n (t.session.step now i)) i (t.session.step now i) :=
  .more hs hr ((waiting_deliver now n c (retries_of_not_answer hi now t.session)).trans
    (hc.append_right _))

theorem turn_reply {q : Handed} {r : Reply} (hq : t.unanswered[k]? = some q) (now n : Nat) :
    Turn t ((t.consume (.reply k r)).deliver now n (t.session.answer now q.text r)) (.answer q.text r)
      (t.session.answer now q.text r) := by
  have hp : (q.text :: (t.consume (.reply k r)).waiting).Perm t.waiting :=
    ((perm_of_getElem? hq).map Handed.text).append_right t.retries
  have h := Session.answered now q.text r t.session
  generalize t.session.answer now q.text r = o at h ⊢
  have hdone (ho : o.alarms = []) :
      Turn t ((t.consume (.reply k r)).deliver now n o) (.answer q.text r) o := by
    have hwaiting := waiting_deliver now n (t.consume (.reply k r)) (o := o) (by simp [ho])
    exact .done q.text (hp.mem_iff.1 (by simp)) (fun h => by cases h)
      ((hwaiting.cons q.text).trans (hp.append_right _))
  cases h with
  | repeated ha reason hr hx =>
    refine .more (by simp [Session.settles, hr, hx, Reading.isBad]) rfl ?_
    rw [waiting, retries_deliver, unanswered_deliver, Outcome.posts_arm, List.map_nil, List.map_nil,
      List.append_nil, List.append_nil, ← List.append_assoc]
    exact List.perm_append_comm.trans hp
  | gone => exact hdone (by simp)
  | exhausted => exact hdone (by simp)
  | _ => exact hdone rfl

theorem turn_retry {a : Armed} {request : String} {sid : Option String} (ha : t.armed[k]? = some a)
    (halarm : a.alarm = .retry request sid) (now n : Nat) :
    Turn t ((t.consume (.fire k)).deliver now n (t.session.fire now (.retry request sid)))
      (.fire (.retry request sid)) (t.session.fire now (.retry request sid)) := by
  have hp : (request :: (t.consume (.fire k)).waiting).Perm t.waiting :=
    List.perm_middle.symm.trans ((retries_perm ha halarm).append_left (t.unanswered.map Handed.text))
  have hmem : request ∈ t.waiting := hp.mem_iff.1 (by simp)
  have hwaiting := waiting_deliver now n (t.consume (.fire k))
    (retries_of_not_answer (i := .fire (.retry request sid)) (by simp) now t.session)
  change ((t.consume (.fire k)).deliver now n (t.session.fire now (.retry request sid))).waiting.Perm
    ((t.consume (.fire k)).waiting ++ (t.session.fire now (.retry request sid)).posts.map Request.text)
    at hwaiting
  rcases Session.texts_fire_retry now request sid t.session with hnone | hone
  · have hposts : (t.session.fire now (.retry request sid)).posts = [] := List.map_eq_nil_iff.1 hnone
    exact .done request hmem (fun _ => hposts) ((hwaiting.cons request).trans (hp.append_right _))
  · rw [hone] at hwaiting
    exact .again request hmem rfl hone ((hwaiting.trans (List.perm_append_singleton _ _)).trans hp)

theorem turn_fire {a : Armed} (ha : t.armed[k]? = some a) (now n : Nat) :
    Turn t ((t.consume (.fire k)).deliver now n (t.session.fire now a.alarm)) (.fire a.alarm)
      (t.session.fire now a.alarm) := by
  cases halarm : a.alarm with
  | retry request sid => exact turn_retry ha halarm now n
  | _ =>
    have hp : (t.consume (.fire k)).waiting.Perm t.waiting :=
      (retries_consume_fire ha (by rw [halarm]; rfl)).append_left _
    exact .of_waiting (i := .fire _) rfl rfl (by simp) hp now n

/-- **Every move** settles what waits, or leaves it. -/
theorem turn (hi : t.input? m = some i) (now : Nat) :
    Turn t ((t.consume m).act now i) i (t.session.step now i) := by
  rw [act, countAfter_consume, session_consume]
  cases m with
  | call j =>
    have hcall := isCall_of_input? hi
    have hp : (t.consume (.call j)).waiting.Perm t.waiting := .refl _
    cases i with
    | answer request r | openBody body | closeBody | fire alarm => cases hcall
    | _ => exact .of_waiting rfl rfl (by simp) hp now _
  | reply k r =>
    obtain ⟨q, hq, rfl⟩ := Option.map_eq_some_iff.1 hi
    exact turn_reply hq now _
  | openBody k =>
    obtain ⟨body, -, rfl⟩ := Option.map_eq_some_iff.1 hi
    have hp : (t.consume (.openBody k)).waiting.Perm t.waiting := .refl _
    exact .of_waiting (i := .openBody body) rfl rfl (by simp) hp now _
  | closeBody k =>
    obtain ⟨body, -, rfl⟩ := Option.map_eq_some_iff.1 hi
    have hp : (t.consume (.closeBody k)).waiting.Perm t.waiting := .refl _
    exact .of_waiting (i := .closeBody) rfl rfl (by simp) hp now _
  | fire k =>
    obtain ⟨a, ha, rfl⟩ := Option.map_eq_some_iff.1 hi
    exact turn_fire ha now _

end Traffic

end XmppBosh.Bosh
