import Mathlib.Data.List.Perm.Basic
import XmppBosh.Proofs.Bosh.Traffic

/-!
# The accounts of an active session

A session counts its requests and remembers which of them went wrong. As long as it is active, this
agrees with what is on its way, and with what has been lost: a request that waits for its retry when the
session gets its identifier is still counted, but it is not repeated any more.

* `Traffic.retries`, `Traffic.repeatable` : the requests that wait for their retry, and those of them that
  will be repeated;
* `Counted` : what the session counts is what is on its way or lost;
* `Counted.deliver` : sending keeps the accounts; `Counted.accepted`, `Counted.repeated`,
  `Counted.resent` and the others : and so does everything else;
* `Counted.maySend` : a session that waits for nothing may send.
-/

namespace XmppBosh.Bosh

open Xml

def Alarm.repeats? : Alarm → Option String
  | .retry request _ => some request
  | .continuation _ | .heartbeat _ => none

/-- The request that an alarm repeats if the session has some identifier, or none, when it goes off. -/
def Alarm.repeatsFor? (sid : Option String) : Alarm → Option String
  | .retry request named => if named = sid then some request else none
  | .continuation _ | .heartbeat _ => none

theorem perm_of_getElem? {α : Type} {l : List α} {k : Nat} {x : α} (h : l[k]? = some x) :
    (x :: l.eraseIdx k).Perm l := by
  obtain ⟨hk, rfl⟩ := List.getElem?_eq_some_iff.1 h
  exact List.getElem_cons_eraseIdx_perm hk

namespace Traffic

def retries (t : Traffic) : List String := t.armed.filterMap fun a => a.alarm.repeats?

/-- The requests that will be repeated, as long as the session goes by the same identifier. -/
def repeatable (t : Traffic) : List String := t.armed.filterMap fun a => a.alarm.repeatsFor? t.session.sid?

/-- What the session counts is what is on its way or lost. -/
structure Counted (st : Settings) (lost : List String) (t : Traffic) : Prop where
  active : t.session.active
  settings : t.session.settings = some st
  stream : t.session.stream.isSome
  outstanding : t.session.outstanding = t.unanswered.length + t.repeatable.length + lost.length
  nodup : t.session.retrying.Nodup
  /-- A request that is being repeated is on its way, waits for its retry or is lost. -/
  repeating : ∀ x ∈ t.session.retrying, x ∈ t.unanswered.map Handed.text ∨ x ∈ t.repeatable ∨ x ∈ lost
  /-- The session keeps the identifier that it has got. -/
  named : ∀ a ∈ t.armed, ∀ request sid, a.alarm = .retry request sid → sid = none ∨ sid = t.session.sid?
  /-- Nothing is lost before the session has its identifier. -/
  unnamed : t.session.sid? = none → lost = []
  dispatching : t.session.dispatching = t.opened.length

variable {st : Settings} {lost : List String} {t : Traffic} {o : Outcome} {now n k : Nat} {a : Armed} {q : Handed}

/-! ## Retries -/

theorem mem_retries {x : String} : x ∈ t.retries ↔ ∃ a ∈ t.armed, ∃ sid, a.alarm = .retry x sid := by
  constructor
  · intro h
    obtain ⟨a, ha, hx⟩ := List.mem_filterMap.1 h
    refine ⟨a, ha, ?_⟩
    cases halarm : a.alarm with
    | retry request sid =>
      simp only [halarm, Alarm.repeats?, Option.some.injEq] at hx
      exact ⟨sid, by rw [hx]⟩
    | continuation rid => simp [halarm, Alarm.repeats?] at hx
    | heartbeat period => simp [halarm, Alarm.repeats?] at hx
  · rintro ⟨a, ha, sid, halarm⟩
    exact List.mem_filterMap.2 ⟨a, ha, by rw [halarm]; rfl⟩

theorem retries_deliver (now n : Nat) (o : Outcome) (t : Traffic) :
    (t.deliver now n o).retries = t.retries ++ o.alarms.filterMap fun a => a.2.repeats? := by
  simp [retries, List.filterMap_append, List.filterMap_map]

theorem retries_of_not_answer {i : Input} (hi : ∀ request r, i ≠ .answer request r) (now : Nat) (s : Session) :
    (s.step now i).alarms.filterMap (fun a => a.2.repeats?) = [] := by
  rw [List.filterMap_eq_nil_iff]
  rintro ⟨d, alarm⟩ ha
  cases alarm with
  | retry request sid =>
    obtain ⟨r, rfl, -⟩ := Session.retry_of_mem_alarms ha
    exact absurd rfl (hi request r)
  | continuation rid => rfl
  | heartbeat period => rfl

theorem retries_perm {request : String} {sid : Option String} (ha : t.armed[k]? = some a)
    (halarm : a.alarm = .retry request sid) :
    (request :: (t.consume (.fire k)).retries).Perm t.retries := by
  have hp := (perm_of_getElem? ha).filterMap fun a => a.alarm.repeats?
  simpa [retries, consume, ha, again?, halarm, Alarm.repeats?] using hp

theorem retries_consume_fire (ha : t.armed[k]? = some a) (hnone : a.alarm.repeats? = none) :
    (t.consume (.fire k)).retries.Perm t.retries := by
  have hp := (perm_of_getElem? ha).filterMap fun a => a.alarm.repeats?
  rw [List.filterMap_cons_none (by exact hnone)] at hp
  have hagain : (again? a).toList.filterMap (fun a => a.alarm.repeats?) = [] := by
    cases halarm : a.alarm with
    | retry request sid => simp [halarm, Alarm.repeats?] at hnone
    | continuation rid => simp [again?, halarm]
    | heartbeat period => simp [again?, halarm, Alarm.repeats?]
  simpa [retries, consume, ha, hagain] using hp

theorem mem_repeatable {x : String} :
    x ∈ t.repeatable ↔ ∃ a ∈ t.armed, a.alarm = .retry x t.session.sid? := by
  constructor
  · intro h
    obtain ⟨a, ha, hx⟩ := List.mem_filterMap.1 h
    refine ⟨a, ha, ?_⟩
    cases halarm : a.alarm with
    | retry request sid =>
      simp only [halarm, Alarm.repeatsFor?, Option.ite_none_right_eq_some, Option.some.injEq] at hx
      rw [hx.1, hx.2]
    | continuation rid | heartbeat period => simp [halarm, Alarm.repeatsFor?] at hx
  · rintro ⟨a, ha, halarm⟩
    exact List.mem_filterMap.2 ⟨a, ha, by rw [halarm, Alarm.repeatsFor?, if_pos rfl]⟩

theorem repeatable_deliver (h : o.session.sid? = t.session.sid?) (now n : Nat) :
    (t.deliver now n o).repeatable =
      t.repeatable ++ o.alarms.filterMap fun a => a.2.repeatsFor? t.session.sid? := by
  simp [repeatable, h, List.filterMap_append, List.filterMap_map]

theorem repeatable_deliver_of_sends (h : Sends t.session o) (now n : Nat) :
    (t.deliver now n o).repeatable = t.repeatable := by
  rw [repeatable_deliver h.frame.sid?, List.append_right_eq_self, List.filterMap_eq_nil_iff]
  rintro ⟨d, alarm⟩ ha
  cases alarm with
  | retry request sid => exact absurd ha (h.alarms d request sid)
  | continuation rid | heartbeat period => rfl

/-- An alarm goes off, and what it repeats, if anything, does not wait any more. -/
theorem repeatable_perm (ha : t.armed[k]? = some a) :
    ((a.alarm.repeatsFor? t.session.sid?).toList ++ (t.consume (.fire k)).repeatable).Perm t.repeatable := by
  have hp := (perm_of_getElem? ha).filterMap fun a => a.alarm.repeatsFor? t.session.sid?
  have hagain : (again? a).toList.filterMap (fun a => a.alarm.repeatsFor? t.session.sid?) = [] := by
    cases halarm : a.alarm with
    | retry request sid | continuation rid => simp [again?, halarm]
    | heartbeat period => simp [again?, halarm, Alarm.repeatsFor?]
  have hrest : (t.consume (.fire k)).repeatable =
      (t.armed.eraseIdx k).filterMap fun a => a.alarm.repeatsFor? t.session.sid? := by
    simp [repeatable, consume, ha, hagain]
  rw [hrest]
  cases hrepeats : a.alarm.repeatsFor? t.session.sid? with
  | none =>
    simp only [List.filterMap_cons, hrepeats] at hp
    exact hp
  | some request =>
    simp only [List.filterMap_cons, hrepeats] at hp
    exact hp

/-! ## Keeping the accounts -/

namespace Counted

variable {request : String} {sid : Option String} {r : Reply} {body : Element}

/-- Before the session has its identifier, whatever waits for its retry will be repeated. -/
theorem repeatable_of_unnamed (h : Counted st lost t) (hsid : t.session.sid? = none) :
    t.repeatable = t.retries := by
  refine List.filterMap_congr fun a ha => ?_
  cases halarm : a.alarm with
  | retry request sid =>
    have hnone : sid = none := by simpa [hsid] using h.named a ha request sid halarm
    rw [hsid, hnone, Alarm.repeatsFor?, if_pos rfl, Alarm.repeats?]
  | continuation rid | heartbeat period => rfl

/-- A move sets no retry, and leaves those that are set as they are. -/
theorem named_consume (h : Counted st lost t) {m : Move} (ha : a ∈ (t.consume m).armed)
    (halarm : a.alarm = .retry request sid) : sid = none ∨ sid = t.session.sid? := by
  obtain ⟨b, hb, -, hab⟩ := mem_armed_consume ha
  exact h.named b hb request sid (hab ▸ halarm)

theorem deliver (h : Counted st lost t) (ho : Sends t.session o) (now n : Nat) :
    Counted st lost (t.deliver now n o) := by
  have hrepeatable := repeatable_deliver_of_sends ho now n
  refine { active := ho.frame.active ▸ h.active, settings := ho.frame.settings ▸ h.settings
           stream := ho.frame.stream_isSome ▸ h.stream, nodup := ho.frame.retrying ▸ h.nodup
           dispatching := ho.frame.dispatching.trans h.dispatching
           outstanding := ?_, repeating := fun x hx => ?_, named := fun a ha request sid halarm => ?_
           unnamed := ?_ }
  · rw [hrepeatable, session_deliver, ho.outstanding, h.outstanding, unanswered_deliver,
      List.length_append, List.length_map]
    omega
  · rw [session_deliver, ho.frame.retrying] at hx
    rw [hrepeatable, unanswered_deliver, List.map_append, List.mem_append]
    exact (h.repeating x hx).imp_left .inl
  · rw [session_deliver, ho.frame.sid?]
    rcases List.mem_append.1 ha with ha | ha
    · exact h.named a ha request sid halarm
    · obtain ⟨⟨d, alarm⟩, hd, rfl⟩ := List.mem_map.1 ha
      obtain rfl : alarm = .retry request sid := halarm
      exact absurd hd (ho.alarms d request sid)
  · rw [session_deliver, ho.frame.sid?]
    exact h.unnamed

theorem consume_fire (h : Counted st lost t) (ha : t.armed[k]? = some a)
    (hnone : a.alarm.repeatsFor? t.session.sid? = none) : Counted st lost (t.consume (.fire k)) := by
  have hp := repeatable_perm ha
  rw [hnone, Option.toList_none, List.nil_append] at hp
  refine { h with
           outstanding := ?_, repeating := fun x hx => ?_, named := fun b hb _ _ => h.named_consume hb }
  · rw [hp.length_eq]
    exact h.outstanding
  · rw [hp.mem_iff]
    exact h.repeating x hx

theorem resent (h : Counted st lost t) (ha : t.armed[k]? = some a)
    (halarm : a.alarm = .retry request t.session.sid?) (now n : Nat) :
    ∃ post, post.text = request ∧
      t.session.fire now a.alarm =
        ⟨({ t.session with outstanding := t.session.outstanding - 1 } : Session).stamp now,
          [.post post], []⟩ ∧
      Counted st lost ((t.consume (.fire k)).deliver now n (t.session.fire now a.alarm)) := by
  have hfire := Session.fire_retry_eq h.active h.stream h.settings now request
  rw [← halarm] at hfire
  have hsid := (Session.fire_frame now a.alarm t.session).sid?
  refine ⟨_, rfl, hfire, ?_⟩
  have hp := repeatable_perm ha
  rw [halarm, Alarm.repeatsFor?, if_pos rfl, Option.toList_some, List.singleton_append] at hp
  have hrepeatable : ((t.consume (.fire k)).deliver now n (t.session.fire now a.alarm)).repeatable =
      (t.consume (.fire k)).repeatable := by
    rw [repeatable_deliver (by exact hsid), hfire]
    exact List.append_nil _
  refine { active := hfire ▸ h.active, settings := hfire ▸ h.settings, nodup := hfire ▸ h.nodup
           dispatching := hfire ▸ h.dispatching
           stream := ?_, outstanding := ?_, repeating := fun x hx => ?_
           named := fun b hb request' sid' hb' => ?_, unnamed := ?_ }
  · simpa [hfire, Session.stamp] using h.stream
  · have hlength := hp.length_eq
    have houtstanding := h.outstanding
    rw [List.length_cons] at hlength
    rw [hrepeatable, hfire, unanswered_deliver, List.length_append]
    show t.session.outstanding - 1 + 1 =
      t.unanswered.length + 1 + (t.consume (.fire k)).repeatable.length + lost.length
    omega
  · rw [hrepeatable, hfire, unanswered_deliver]
    rw [hfire] at hx
    rcases h.repeating x hx with hx | hx | hx
    · exact .inl (by simp [consume, List.mem_map.1 hx])
    · rcases List.mem_cons.1 (hp.mem_iff.2 hx) with rfl | hx
      · exact .inl (by simp)
      · exact .inr (.inl hx)
    · exact .inr (.inr hx)
  · rw [session_deliver, hsid]
    rw [hfire] at hb
    exact h.named_consume (by simpa using hb) hb'
  · rw [session_deliver, hsid]
    exact h.unnamed

theorem outstanding_of_reply (h : Counted st lost t) (hq : t.unanswered[k]? = some q) :
    t.session.outstanding = (t.unanswered.eraseIdx k).length + 1 + t.repeatable.length + lost.length := by
  have hlength := (perm_of_getElem? hq).length_eq
  rw [List.length_cons] at hlength
  rw [h.outstanding, hlength]

/-- Only the request that gets its reply is not where it was. -/
theorem repeating_of_reply (h : Counted st lost t) (hq : t.unanswered[k]? = some q) {x : String}
    (hx : x ∈ t.session.retrying) (hne : x ≠ q.text) :
    x ∈ (t.unanswered.eraseIdx k).map Handed.text ∨ x ∈ t.repeatable ∨ x ∈ lost := by
  refine (h.repeating x hx).imp_left fun hx => ?_
  have hx := ((perm_of_getElem? hq).map Handed.text).mem_iff.2 hx
  exact (List.mem_cons.1 hx).resolve_left hne

theorem accepted (h : Counted st lost t) (hq : t.unanswered[k]? = some q) (now n : Nat) :
    Counted st lost ((t.consume (.reply k r)).deliver now n ⟨t.session.accept q.text, [], []⟩) := by
  have hrepeatable : ((t.consume (.reply k r)).deliver now n ⟨t.session.accept q.text, [], []⟩).repeatable =
      t.repeatable :=
    (repeatable_deliver (t := t.consume (.reply k r)) rfl now n).trans (List.append_nil _)
  refine { active := h.active, settings := h.settings, stream := h.stream, nodup := h.nodup.erase q.text
           unnamed := h.unnamed, dispatching := h.dispatching
           outstanding := ?_, repeating := fun x hx => ?_
           named := fun b hb request sid hb' => h.named_consume (by simpa using hb) hb' }
  · have houtstanding := h.outstanding_of_reply hq
    rw [hrepeatable]
    show t.session.outstanding - 1 =
      (t.unanswered.eraseIdx k ++ []).length + t.repeatable.length + lost.length
    rw [List.append_nil]
    omega
  · obtain ⟨hne, hx⟩ := h.nodup.mem_erase_iff.1 hx
    rw [hrepeatable, unanswered_deliver, List.map_append, List.mem_append]
    exact (h.repeating_of_reply hq hx hne).imp_left .inl

theorem repeated (h : Counted st lost t) (hq : t.unanswered[k]? = some q) (now n d : Nat)
    (notices : List Notice) :
    Counted st lost ((t.consume (.reply k r)).deliver now n
      ⟨t.session.failed q.text, [.arm d (.retry q.text t.session.sid?)], notices⟩) := by
  have hrepeatable : ((t.consume (.reply k r)).deliver now n
      ⟨t.session.failed q.text, [.arm d (.retry q.text t.session.sid?)], notices⟩).repeatable =
      t.repeatable ++ [q.text] := by
    rw [repeatable_deliver (t := t.consume (.reply k r)) rfl now n]
    show t.repeatable ++ _ = _
    simp [Alarm.repeatsFor?]
  refine { active := h.active, settings := h.settings, stream := h.stream
           nodup := Session.nodup_failed h.nodup q.text, unnamed := h.unnamed, dispatching := h.dispatching
           outstanding := ?_, repeating := fun x hx => ?_, named := fun a ha request sid halarm => ?_ }
  · rw [hrepeatable, List.length_append, List.length_singleton]
    show t.session.outstanding =
      (t.unanswered.eraseIdx k ++ []).length + (t.repeatable.length + 1) + lost.length
    rw [List.append_nil, h.outstanding_of_reply hq]
    omega
  · rw [hrepeatable, unanswered_deliver, List.map_append, List.mem_append, List.mem_append]
    by_cases hxq : x = q.text
    · exact .inr (.inl (.inr (by simp [hxq])))
    · rcases h.repeating_of_reply hq ((Session.mem_retrying_failed.1 hx).resolve_right hxq) hxq with hx | hx | hx
      · exact .inl (.inl hx)
      · exact .inr (.inl (.inl hx))
      · exact .inr (.inr hx)
  · rcases List.mem_append.1 ha with ha | ha
    · exact h.named_consume ha halarm
    · simp only [Outcome.alarms_arm, List.map_cons, List.map_nil, List.mem_singleton] at ha
      subst ha
      cases halarm
      exact .inr rfl

theorem opened (h : Counted st lost t) (hb : t.arrived[k]? = some body) (hands : t.handsOut body)
    {stream : Option Stream} (hst : stream.isSome) (hsid : stream.bind Stream.sid = t.session.sid?)
    (now n : Nat) (notices : List Notice) :
    Counted st lost ((t.consume (.openBody k)).deliver now n
      ⟨{ t.session with dispatching := t.session.dispatching + 1, stream }, [], notices⟩) := by
  have hrepeatable : ((t.consume (.openBody k)).deliver now n
      ⟨{ t.session with dispatching := t.session.dispatching + 1, stream }, [], notices⟩).repeatable =
      t.repeatable := by
    rw [repeatable_deliver (by exact hsid)]
    exact List.append_nil _
  refine { active := h.active, settings := h.settings, stream := hst, nodup := h.nodup
           unnamed := fun hnone => h.unnamed (hsid.symm.trans hnone)
           outstanding := ?_, repeating := fun x hx => ?_, named := fun a ha request sid halarm => ?_
           dispatching := ?_ }
  · rw [hrepeatable]
    simpa [consume] using h.outstanding
  · rw [hrepeatable]
    simpa [consume] using h.repeating x hx
  · have ha : a ∈ (t.consume (.openBody k)).armed := by simpa using ha
    exact (h.named_consume ha halarm).imp_right (·.trans hsid.symm)
  · simp [consume, hb, hands, h.dispatching, Option.filter]

/-- A body gives the session its identifier. What waits for its retry is lost. -/
theorem established (h : Counted st lost t) (hb : t.arrived[k]? = some body) (hands : t.handsOut body)
    {stream : Stream} (hnone : t.session.sid? = none) (hsid : stream.sid.isSome)
    (now n : Nat) (notices : List Notice) :
    Counted st t.retries ((t.consume (.openBody k)).deliver now n
      ⟨{ t.session with dispatching := t.session.dispatching + 1, stream := some stream }, [], notices⟩) := by
  have harmed (a : Armed) (ha : a ∈ t.armed) (request : String) (sid : Option String)
      (halarm : a.alarm = .retry request sid) : sid = none := by
    simpa [hnone] using h.named a ha request sid halarm
  have hrepeatable : ((t.consume (.openBody k)).deliver now n
      ⟨{ t.session with dispatching := t.session.dispatching + 1, stream := some stream }, [],
        notices⟩).repeatable = [] := by
    refine List.eq_nil_iff_forall_not_mem.2 fun x hx => ?_
    obtain ⟨a, ha, halarm⟩ := mem_repeatable.1 hx
    have ha : a ∈ t.armed := by simpa [consume] using ha
    have hsame : stream.sid = none := harmed a ha x _ halarm
    simp [hsame] at hsid
  have hlost := h.unnamed hnone
  have hretries := h.repeatable_of_unnamed hnone
  refine { active := h.active, settings := h.settings, stream := rfl, nodup := h.nodup
           outstanding := ?_, repeating := fun x hx => ?_, named := fun a ha request sid halarm => ?_
           unnamed := fun hnot => ?_, dispatching := ?_ }
  · have houtstanding := h.outstanding
    rw [hlost, hretries] at houtstanding
    rw [hrepeatable]
    simpa [consume] using houtstanding
  · have hx := h.repeating x hx
    rw [hlost, hretries] at hx
    rw [hrepeatable]
    simpa [consume] using hx
  · exact .inl (harmed a (by simpa [consume] using ha) request sid halarm)
  · have hnot : stream.sid = none := hnot
    simp [hnot] at hsid
  · simp [consume, hb, hands, h.dispatching, Option.filter]

theorem closing (h : Counted st lost t) (hb : t.opened[k]? = some body) :
    Counted st lost { t.consume (.closeBody k) with
      session := { t.session with dispatching := t.session.dispatching - 1 } } := by
  refine { h with dispatching := ?_ }
  have hlength := (perm_of_getElem? hb).length_eq
  rw [List.length_cons] at hlength
  have hdispatching := h.dispatching
  simp only [consume]
  omega

theorem renewed (h : Counted st lost t) (now n : Nat) :
    Counted st lost (t.deliver now n ⟨t.session.renewed, [], []⟩) := by
  refine { h with nodup := List.nodup_nil, outstanding := ?_, repeating := ?_, named := ?_ }
  · rw [repeatable_deliver rfl]
    simpa [Session.renewed] using h.outstanding
  · simp [Session.renewed]
  · simpa [Session.renewed, Session.sid?] using h.named

theorem timings (h : Counted st lost t) (timings : Timings) (now n : Nat) :
    Counted st lost (t.deliver now n ⟨{ t.session with timings }, [], []⟩) := by
  have hrepeatable : (t.deliver now n ⟨{ t.session with timings }, [], []⟩).repeatable = t.repeatable :=
    (repeatable_deliver rfl now n).trans (List.append_nil _)
  refine { h with outstanding := ?_, repeating := ?_, named := ?_ }
  · rw [hrepeatable]
    simpa using h.outstanding
  · rw [hrepeatable]
    simpa using h.repeating
  · simpa [Session.sid?] using h.named

/-! ## What the accounts say -/

theorem outstanding_pos (h : Counted st lost t) (hq : t.unanswered[k]? = some q) :
    0 < t.session.outstanding := by
  have houtstanding := h.outstanding
  have hlength := List.length_pos_of_mem (List.mem_of_getElem? hq)
  omega

theorem retrying_eq_nil (h : Counted st lost t) (ho : t.session.outstanding = 0) :
    t.session.retrying = [] := by
  have houtstanding := h.outstanding
  have hunanswered : t.unanswered = [] := List.eq_nil_of_length_eq_zero (by omega)
  have hrepeatable : t.repeatable = [] := List.eq_nil_of_length_eq_zero (by omega)
  have hlost : lost = [] := List.eq_nil_of_length_eq_zero (by omega)
  rw [List.eq_nil_iff_forall_not_mem]
  intro x hx
  have hx := h.repeating x hx
  simp [hunanswered, hrepeatable, hlost] at hx

theorem maySend (h : Counted st lost t) (hmax : 1 ≤ st.maxRequests) (ho : t.session.outstanding = 0)
    (hopened : t.opened = []) : t.session.maySend := by
  have hdispatching := h.dispatching
  rw [hopened, List.length_nil] at hdispatching
  simp [Session.maySend, Session.maxRequests, hdispatching, h.active, h.settings, ho,
    h.retrying_eq_nil ho]
  omega

end Counted

end Traffic

end XmppBosh.Bosh
