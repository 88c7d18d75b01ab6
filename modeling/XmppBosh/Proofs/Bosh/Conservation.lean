import Mathlib.Data.List.Induction
import XmppBosh.Proofs.Bosh.Accounts
import XmppBosh.Proofs.Bosh.Stanzas

/-!
# No stanza is lost, duplicated or reordered

Every stanza gets the number of those that were sent before it. A ledger follows these numbers through
the history of a run.

* `Ledger` : the stanzas, and the numbers of those that are pending, that have been posted and that
  have been discarded;
* `Ledger.take`, `ledger` : the ledger after one more step, and after a run;
* `Ledger.Lists` : numbers and the stanzas that they are of; `Ledger.Tidy` : every number is in one
  place, in order, and every request that was posted has the stanzas of its numbers;
* `Kept`, `Kept.take` : a tidy ledger that tells what is pending and on its way;
* `Conserves`, `conserves` : what the ledger tells about a run.
-/

namespace XmppBosh.Bosh

open Xml

/-- Where every stanza has gone, by number. -/
structure Ledger where
  /-- The stanzas in the order of sending. -/
  sent : List Element := []
  /-- Those of the pending body. -/
  queued : List Nat := []
  /-- The requests that were handed over, repetitions aside, each with its stanzas. -/
  posted : List (String × List Nat) := []
  /-- The requests that were handed over again. -/
  repeated : List String := []
  /-- Those that were discarded with their body. -/
  dropped : List Nat := []

namespace Ledger

/-! ## Keeping a ledger -/

def drop (l : Ledger) : Ledger := { l with dropped := l.dropped ++ l.queued, queued := [] }

def send (e : Element) (l : Ledger) : Ledger :=
  { l with sent := l.sent ++ [e], queued := l.queued ++ [l.sent.length] }

def post (l : Ledger) (text : String) : Ledger :=
  { l with posted := l.posted ++ [(text, l.queued)], queued := [] }

def again (texts : List String) (l : Ledger) : Ledger := { l with repeated := l.repeated ++ texts }

/-- What a step discards and adds. -/
def gather (g : Traffic.Stage) (l : Ledger) : Ledger :=
  let l := if g.before.discards g.input then l.drop else l
  match g.input.stanza? with
  | some e => l.send e
  | none => l

/-- What a step discards, adds and hands over. -/
def take (l : Ledger) (g : Traffic.Stage) : Ledger :=
  let texts := g.outcome.posts.map Request.text
  if g.input.isRetry then (l.gather g).again texts else texts.foldl post (l.gather g)

def handed (l : Ledger) : List Nat := l.posted.flatMap (·.2)

def texts (l : Ledger) : List String := l.posted.map (·.1)

/-! ## Tidiness -/

/-- The stanzas that numbers are of. -/
def Lists (ns : List Nat) (stanzas : List Element) (l : Ledger) : Prop :=
  ns.map (l.sent[·]?) = stanzas.map some

/-- Every number is in one place and in order, and requests have the stanzas of their numbers. -/
structure Tidy (l : Ledger) : Prop where
  ordered : l.handed ++ l.queued = (List.range l.sent.length).filter (· ∉ l.dropped)
  nodup : l.dropped.Nodup
  known : ∀ n ∈ l.dropped, n < l.sent.length
  bodies : ∀ p ∈ l.posted, ∃ b : Body, b.text = p.1 ∧ l.Lists p.2 b.stanzas
  repeated : ∀ x ∈ l.repeated, x ∈ l.texts

variable {l : Ledger} {ns : List Nat} {stanzas : List Element} {e : Element}

theorem lists_send (h : l.Lists ns stanzas) (e : Element) : (l.send e).Lists ns stanzas := by
  unfold Lists at h ⊢
  rw [← h]
  refine List.map_congr_left fun n hn => ?_
  have hsome : l.sent[n]? ∈ stanzas.map some := h ▸ List.mem_map_of_mem hn
  obtain ⟨x, -, hx⟩ := List.mem_map.1 hsome
  have hlt : n < l.sent.length := (List.getElem?_eq_some_iff.1 hx.symm).1
  exact List.getElem?_append_left hlt

theorem lists_append {ns' : List Nat} {stanzas' : List Element} (h : l.Lists ns stanzas)
    (h' : l.Lists ns' stanzas') : l.Lists (ns ++ ns') (stanzas ++ stanzas') := by
  unfold Lists at h h' ⊢
  rw [List.map_append, List.map_append, h, h']

theorem lists_last (e : Element) (l : Ledger) : (l.send e).Lists [l.sent.length] [e] := by
  simp [Lists, send]

namespace Tidy

theorem disjoint (h : l.Tidy) : (l.handed ++ l.queued).Nodup :=
  h.ordered ▸ List.nodup_range.filter _

theorem not_mem_dropped (h : l.Tidy) {n : Nat} (hn : n ∈ l.handed ++ l.queued) : n ∉ l.dropped := by
  rw [h.ordered] at hn
  simpa using (List.mem_filter.1 hn).2

theorem lt_length (h : l.Tidy) {n : Nat} (hn : n ∈ l.handed ++ l.queued) : n < l.sent.length := by
  rw [h.ordered] at hn
  exact List.mem_range.1 (List.mem_filter.1 hn).1

theorem complete (h : l.Tidy) :
    (l.handed ++ l.queued ++ l.dropped).Perm (List.range l.sent.length) := by
  have hdropped :
      l.dropped.Perm ((List.range l.sent.length).filter fun n => !decide (n ∉ l.dropped)) := by
    rw [List.perm_ext_iff_of_nodup h.nodup (List.nodup_range.filter _)]
    intro n
    simpa using h.known n
  rw [h.ordered]
  exact (hdropped.append_left _).trans (List.filter_append_perm _ _)

theorem drop (h : l.Tidy) : l.drop.Tidy where
  ordered := by
    have hdisjoint := (List.nodup_append.1 h.disjoint).2.2
    have hhanded : l.handed.filter (· ∉ l.queued) = l.handed :=
      List.filter_eq_self.2 fun n hn => by simpa using fun hq => hdisjoint n hn n hq rfl
    have hqueued : l.queued.filter (· ∉ l.queued) = [] := List.filter_eq_nil_iff.2 (by simp)
    calc l.handed ++ []
        = (l.handed ++ l.queued).filter (· ∉ l.queued) := by
          rw [List.filter_append, hhanded, hqueued]
      _ = ((List.range l.sent.length).filter (· ∉ l.dropped)).filter (· ∉ l.queued) := by
          rw [h.ordered]
      _ = (List.range l.sent.length).filter (· ∉ l.dropped ++ l.queued) := by
          rw [List.filter_filter]
          congr 1
          funext n
          simp [not_or, and_comm]
  nodup := by
    refine List.nodup_append.2 ⟨h.nodup, (List.nodup_append.1 h.disjoint).2.1, ?_⟩
    rintro n hn _ hq rfl
    exact h.not_mem_dropped (List.mem_append.2 (.inr hq)) hn
  known := by
    intro n hn
    rcases List.mem_append.1 hn with hn | hn
    · exact h.known n hn
    · exact h.lt_length (List.mem_append.2 (.inr hn))
  bodies := h.bodies
  repeated := h.repeated

theorem send (h : l.Tidy) (e : Element) : (l.send e).Tidy where
  ordered := by
    have hnew : l.sent.length ∉ l.dropped := fun hn => Nat.lt_irrefl _ (h.known _ hn)
    show l.handed ++ (l.queued ++ [l.sent.length]) =
      (List.range (l.sent ++ [e]).length).filter (· ∉ l.dropped)
    rw [List.length_append, List.length_singleton, List.range_succ, List.filter_append, ← h.ordered,
      List.append_assoc]
    simp [hnew]
  nodup := h.nodup
  known := by
    intro n hn
    have hlt := h.known n hn
    simp [Ledger.send]
    omega
  bodies := by
    intro p hp
    obtain ⟨b, htext, hlists⟩ := h.bodies p hp
    exact ⟨b, htext, lists_send hlists e⟩
  repeated := h.repeated

theorem post (h : l.Tidy) {b : Body} (hb : l.Lists l.queued b.stanzas) : (l.post b.text).Tidy where
  ordered := by
    have hsame : (l.post b.text).handed ++ (l.post b.text).queued = l.handed ++ l.queued := by
      simp [handed, Ledger.post]
    exact hsame.trans h.ordered
  nodup := h.nodup
  known := h.known
  bodies := by
    intro p hp
    rcases List.mem_append.1 hp with hp | hp
    · exact h.bodies p hp
    · rw [List.mem_singleton.1 hp]
      exact ⟨b, rfl, hb⟩
  repeated := by
    intro x hx
    rw [texts, Ledger.post, List.map_append]
    exact List.mem_append.2 (.inl (h.repeated x hx))

theorem again {texts : List String} (h : l.Tidy) (ht : ∀ x ∈ texts, x ∈ l.texts) :
    (l.again texts).Tidy where
  ordered := h.ordered
  nodup := h.nodup
  known := h.known
  bodies := h.bodies
  repeated := by
    intro x hx
    rcases List.mem_append.1 hx with hx | hx
    · exact h.repeated x hx
    · exact ht x hx

end Tidy

/-! ## Steps -/

variable {g : Traffic.Stage}

/-- The requests that have been handed over are still among them after a step. -/
theorem texts_gather (g : Traffic.Stage) (l : Ledger) : (l.gather g).texts = l.texts := by
  unfold gather
  split <;> split <;> rfl

theorem texts_post (l : Ledger) (text : String) : (l.post text).texts = l.texts ++ [text] := by
  simp [texts, post]

theorem sent_gather (g : Traffic.Stage) (l : Ledger) :
    (l.gather g).sent = l.sent ++ g.input.stanza?.toList := by
  unfold gather
  cases g.input.stanza? with
  | none => split <;> simp [drop]
  | some e => split <;> simp [drop, send]

theorem repeated_gather (g : Traffic.Stage) (l : Ledger) : (l.gather g).repeated = l.repeated := by
  unfold gather
  split <;> split <;> rfl

/-- Handing over adds to the requests, and to nothing else that is told in order. -/
theorem foldl_post (ts : List String) (l : Ledger) :
    (ts.foldl post l).sent = l.sent ∧ (ts.foldl post l).texts = l.texts ++ ts ∧
      (ts.foldl post l).repeated = l.repeated := by
  induction ts generalizing l with
  | nil => simp
  | cons x ts ih =>
    obtain ⟨hsent, htexts, hrepeated⟩ := ih (l.post x)
    refine ⟨hsent, ?_, hrepeated⟩
    rw [List.foldl_cons, htexts, texts_post, List.append_assoc]
    rfl

theorem dropped_foldl_post (ts : List String) (l : Ledger) :
    (ts.foldl post l).dropped = l.dropped := by
  induction ts generalizing l with
  | nil => rfl
  | cons x ts ih => exact ih (l.post x)

theorem dropped_take (g : Traffic.Stage) (l : Ledger) :
    (l.take g).dropped = l.dropped ++ if g.before.discards g.input then l.queued else [] := by
  have hgather : (l.gather g).dropped =
      l.dropped ++ if g.before.discards g.input then l.queued else [] := by
    unfold gather
    cases g.input.stanza? <;> split <;> simp [drop, send]
  unfold take
  cases g.input.isRetry with
  | true => exact hgather
  | false => exact (dropped_foldl_post _ _).trans hgather

theorem take_eq (g : Traffic.Stage) (l : Ledger) :
    (l.take g).sent = l.sent ++ g.input.stanza?.toList ∧
      (l.take g).texts = l.texts ++
        (if g.input.isRetry then [] else g.outcome.posts.map Request.text) ∧
      (l.take g).repeated = l.repeated ++
        (if g.input.isRetry then g.outcome.posts.map Request.text else []) := by
  unfold take
  cases g.input.isRetry with
  | true =>
    refine ⟨sent_gather g l, ?_, ?_⟩
    · simpa [again, texts] using texts_gather g l
    · simpa [again] using repeated_gather g l
  | false =>
    obtain ⟨hsent, htexts, hrepeated⟩ := foldl_post (g.outcome.posts.map Request.text) (l.gather g)
    refine ⟨hsent.trans (sent_gather g l), ?_, ?_⟩
    · simpa [texts_gather] using htexts
    · simpa [repeated_gather] using hrepeated

theorem Tidy.gather (h : l.Tidy) (hp : l.Lists l.queued g.before.queued) :
    (l.gather g).Tidy ∧ (l.gather g).Lists (l.gather g).queued
      (g.before.kept g.input ++ g.input.stanza?.toList) := by
  obtain ⟨k, hk⟩ : ∃ k, k = if g.before.discards g.input then l.drop else l := ⟨_, rfl⟩
  have hkept : k.Tidy ∧ k.Lists k.queued (g.before.kept g.input) := by
    rw [hk, Session.kept]
    split
    · exact ⟨h.drop, rfl⟩
    · exact ⟨h, hp⟩
  have hgather : l.gather g =
    match g.input.stanza? with
    | some e => k.send e
    | none => k := by rw [hk]; rfl
  rw [hgather]
  cases g.input.stanza? with
  | none => simpa using hkept
  | some e =>
    exact ⟨hkept.1.send e, lists_append (lists_send hkept.2 e) (lists_last e k)⟩

end Ledger

namespace Traffic

variable {l : Ledger} {t : Traffic} {m : Move} {i : Input} {now : Nat}

/-- A tidy ledger that tells what is pending, and knows the requests that are on their way. -/
structure Kept (l : Ledger) (t : Traffic) : Prop where
  tidy : l.Tidy
  settings : t.session.settings.isSome
  pending : l.Lists l.queued t.session.queued
  unanswered : ∀ q ∈ t.unanswered, q.text ∈ l.texts
  retries : ∀ x ∈ t.retries, x ∈ l.texts

/-- What a step makes of the ledger, of the pending body and of what it hands over. -/
structure Taken (l l' : Ledger) (o : Outcome) : Prop where
  tidy : l'.Tidy
  pending : l'.Lists l'.queued o.session.queued
  older : ∀ x ∈ l.texts, x ∈ l'.texts
  newer : ∀ r ∈ o.posts, r.text ∈ l'.texts

theorem Kept.take_of_carried (h : Kept l t) (hi : i.isRetry = false) (now : Nat) :
    Taken l (l.take ⟨t.session, now, i⟩) (t.session.step now i) := by
  obtain ⟨g, hg⟩ : ∃ g : Stage, g = ⟨t.session, now, i⟩ := ⟨_, rfl⟩
  have hpending : l.Lists l.queued g.before.queued := by rw [hg]; exact h.pending
  obtain ⟨htidy, hlists⟩ := h.tidy.gather hpending
  have htake : l.take g =
      ((t.session.step now i).posts.map Request.text).foldl Ledger.post (l.gather g) := by
    simp [Ledger.take, hg, hi, Stage.outcome]
  rw [← hg, htake]
  cases Session.step_carried h.settings hi now with
  | pending posts queued =>
    rw [posts]
    refine ⟨htidy, ?_, fun x hx => ?_, by simp [posts]⟩
    · rw [queued]
      simpa [hg] using hlists
    · rw [List.map_nil, List.foldl_nil, Ledger.texts_gather]
      exact hx
  | posted request body posts text stanzas queued =>
    have hbody : (l.gather g).Lists (l.gather g).queued body.stanzas := by
      rw [stanzas]
      simpa [hg] using hlists
    rw [posts, List.map_singleton, List.foldl_cons, List.foldl_nil, text]
    refine ⟨htidy.post hbody, ?_, fun x hx => ?_, fun r hr => ?_⟩
    · rw [queued]
      rfl
    · rw [Ledger.texts_post, Ledger.texts_gather]
      exact List.mem_append.2 (.inl hx)
    · rw [posts, List.mem_singleton] at hr
      rw [Ledger.texts_post, hr, text]
      simp

theorem Kept.take_of_retry (h : Kept l t) {request : String} {sid : Option String}
    (hr : request ∈ t.retries) (now : Nat) :
    Taken l (l.take ⟨t.session, now, .fire (.retry request sid)⟩)
      (t.session.step now (.fire (.retry request sid))) := by
  obtain ⟨hqueued, htext⟩ := Session.fire_retry_carried now request sid t.session
  have hposted (r : Request) (hp : r ∈ (t.session.fire now (.retry request sid)).posts) :
      r.text ∈ l.texts := by
    rw [htext r hp]
    exact h.retries request hr
  refine ⟨h.tidy.again fun x hx => ?_, ?_, fun x hx => hx, hposted⟩
  · obtain ⟨r, hp, rfl⟩ := List.mem_map.1 hx
    exact hposted r hp
  · show l.Lists l.queued (t.session.fire now (.retry request sid)).session.queued
    rw [hqueued]
    exact h.pending

theorem Kept.take (h : Kept l t) (hi : t.input? m = some i) (now : Nat) :
    Taken l (l.take ⟨t.session, now, i⟩) (t.session.step now i) := by
  cases hretry : i.isRetry with
  | false => exact h.take_of_carried hretry now
  | true =>
    obtain ⟨request, sid, rfl⟩ := Input.exists_of_isRetry hretry
    obtain ⟨k, a, -, ha, halarm⟩ := fire_of_input? hi
    exact h.take_of_retry (mem_retries.2 ⟨a, List.mem_of_getElem? ha, sid, halarm⟩) now

/-- **One step** keeps the ledger tidy and in agreement with what is pending and on its way. -/
theorem Kept.step (h : Kept l t) (hi : t.input? m = some i) (now : Nat) :
    Kept (l.take ⟨t.session, now, i⟩) ((t.consume m).act now i) := by
  have htaken := h.take hi now
  constructor
  · exact htaken.tidy
  · rw [act, session_deliver, session_consume]
    exact (Session.step_retains now i t.session).settings h.settings
  · rw [act, session_deliver, session_consume]
    exact htaken.pending
  · intro q hq
    rw [act, unanswered_deliver, session_consume] at hq
    rcases List.mem_append.1 hq with hq | hq
    · exact htaken.older _ (h.unanswered q (mem_unanswered_consume hq))
    · obtain ⟨r, hr, rfl⟩ := List.mem_map.1 hq
      exact htaken.newer r hr
  · intro x hx
    obtain ⟨a, ha, sid, halarm⟩ := mem_retries.1 hx
    apply htaken.older
    rcases retry_of_mem_armed hi ha halarm with ⟨b, hb, -, hb'⟩ | ⟨⟨q, hq, rfl⟩, -⟩
    · exact h.retries x (mem_retries.2 ⟨b, hb, sid, hb'⟩)
    · exact h.unanswered q hq

/-! ## Runs -/

def ledger (gs : List Stage) : Ledger := gs.foldl Ledger.take {}

theorem Kept.run (h : Kept l t) (ms : List (Nat × Move)) :
    Kept ((stages ms t).foldl Ledger.take l) (t.run ms) := by
  induction ms generalizing l t with
  | nil => exact h
  | cons x ms ih =>
    obtain ⟨now, m⟩ := x
    rw [run_cons, stages, List.foldl_append]
    cases hi : t.input? m with
    | none =>
      rw [step_none hi]
      exact ih h
    | some i =>
      rw [step_some hi]
      exact ih (h.step hi now)

theorem Kept.start (st : Settings) (timings : Timings) : Kept {} (start (some st) timings) where
  tidy := ⟨rfl, List.nodup_nil, by simp, by simp, by simp⟩
  settings := rfl
  pending := rfl
  unanswered := by simp [Traffic.start]
  retries := by simp [Traffic.start, Traffic.retries]

/-! ## Conservation -/

def handedOver (repetitions : Bool) (gs : List Stage) : List String :=
  (gs.filter (·.input.isRetry == repetitions)).flatMap (·.outcome.posts.map Request.text)

theorem handedOver_append (repetitions : Bool) (gs hs : List Stage) :
    handedOver repetitions (gs ++ hs) = handedOver repetitions gs ++ handedOver repetitions hs := by
  simp [handedOver]

structure Conserves (gs : List Stage) (l : Ledger) (s : Session) : Prop where
  /-- Every stanza that was sent has its number. -/
  sent : l.sent = gs.filterMap (·.input.stanza?)
  /-- The pending body has the stanzas of its numbers. -/
  pending : l.Lists l.queued s.queued
  /-- So has every request that was handed over. -/
  posted : l.texts = handedOver false gs
  bodies : ∀ p ∈ l.posted, ∃ b : Body, b.text = p.1 ∧ l.Lists p.2 b.stanzas
  /-- A repetition is one of these requests, letter by letter. -/
  repeated : l.repeated = handedOver true gs
  known : ∀ x ∈ l.repeated, x ∈ l.texts
  /-- Every stanza was handed over, is pending or was discarded, and only once. -/
  complete : (l.handed ++ l.queued ++ l.dropped).Perm (List.range l.sent.length)
  /-- A stanza was discarded only with the body that was pending, by a step that discards it. -/
  discarded : ∀ n ∈ l.dropped, ∃ before g after, gs = before ++ g :: after ∧
    g.before.discards g.input ∧ n ∈ (ledger before).queued
  /-- What was handed over and what is pending is in the order of sending. -/
  ordered : l.handed ++ l.queued = (List.range l.sent.length).filter (· ∉ l.dropped)

theorem foldl_take (gs : List Stage) (l : Ledger) :
    (gs.foldl Ledger.take l).sent = l.sent ++ gs.filterMap (·.input.stanza?) ∧
      (gs.foldl Ledger.take l).texts = l.texts ++ handedOver false gs ∧
      (gs.foldl Ledger.take l).repeated = l.repeated ++ handedOver true gs := by
  induction gs generalizing l with
  | nil => simp [handedOver]
  | cons g gs ih =>
    obtain ⟨hsent, htexts, hrepeated⟩ := ih (l.take g)
    obtain ⟨hsent', htexts', hrepeated'⟩ := l.take_eq g
    rw [List.foldl_cons, hsent, htexts, hrepeated, hsent', htexts', hrepeated']
    refine ⟨?_, ?_, ?_⟩
    · cases h : g.input.stanza? <;> simp [h]
    · cases h : g.input.isRetry <;> simp [h, handedOver]
    · cases h : g.input.isRetry <;> simp [h, handedOver]

theorem exists_of_mem_dropped (gs : List Stage) {n : Nat} (hn : n ∈ (ledger gs).dropped) :
    ∃ before g after, gs = before ++ g :: after ∧ g.before.discards g.input ∧
      n ∈ (ledger before).queued := by
  induction gs using List.reverseRecOn with
  | nil => cases hn
  | append_singleton gs g ih =>
    rw [ledger, List.foldl_append, List.foldl_cons, List.foldl_nil, Ledger.dropped_take] at hn
    rcases List.mem_append.1 hn with hn | hn
    · obtain ⟨before, g', after, rfl, hdiscards, hqueued⟩ := ih hn
      exact ⟨before, g', after ++ [g], by simp, hdiscards, hqueued⟩
    · split at hn
      · next hdiscards => exact ⟨gs, g, [], rfl, hdiscards, hn⟩
      · cases hn

/-- **No stanza is lost, duplicated or reordered**, whatever a client with settings does. -/
theorem conserves (st : Settings) (timings : Timings) (ms : List (Nat × Move)) :
    let t := start (some st) timings
    Conserves (stages ms t) (ledger (stages ms t)) (t.run ms).session := by
  intro t
  have hkept := (Kept.start st timings).run ms
  obtain ⟨hsent, htexts, hrepeated⟩ := foldl_take (stages ms t) {}
  constructor
  · exact hsent
  · exact hkept.pending
  · exact htexts
  · exact hkept.tidy.bodies
  · exact hrepeated
  · exact hkept.tidy.repeated
  · exact hkept.tidy.complete
  · exact fun n hn => exists_of_mem_dropped _ hn
  · exact hkept.tidy.ordered

/-- Two requests may be unanswered, so the second of two stanzas waits, and goes with the session. -/
example :
    let settings : Settings := { httpBase := "http://localhost/", hostName := "localhost" }
    let stanza : Element := { tag := { name := "message", ns := "jabber:client" } }
    let l := ledger (stages [(0, .call (.connect 0)), (0, .call (.send stanza)),
      (0, .call (.send stanza)), (0, .call .disconnect)] (start (some settings) {}))
    l.handed = [0] ∧ l.queued = [] ∧ l.dropped = [1] := by
  decide +kernel

end Traffic

end XmppBosh.Bosh
