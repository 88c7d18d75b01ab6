import XmppBosh.Proofs.Client.Unfolding
import XmppBosh.Proofs.Listeners.Order
import Mathlib.Data.List.Infix
import Mathlib.Data.List.Perm.Subperm

/-!
# In which order changes of state are heard

Listeners and mailboxes for the changes of state of a connection register before a run, and the listeners do whatever
they like when they are called. Those of them that stay hear what the listeners in a `Hall` hear.

* `Enrolled`, `Attend` : some registrations are old ones, and nobody has come in between; they are still there;
  `Since` : what carries this over from one state to another;
* `Follows`, `Hosts` : what has become of a session and of those who listen to it;
* `Evolves.hosts`, `Announces.hosts`, `Tells.hosts` : whatever is done in a program leaves what was ahead as it was;
* `lasting` : who is registered before and stays; `heard_in_order` : what everybody hears, and in which order;
* `told_of_impatient`, `out_of_order` : listeners that end the session when they are told of something.
-/

namespace XmppBosh.Client

open Bosh (Session Notice Hall Call Made Sight)

def Mail.notice? : Mail → Option Notice
  | .notice n => some n
  | .stanza _ | .result _ => none

/-- The notice in an event that a recorder of changes of state heard. -/
def Event.state? : Event → Option Notice
  | .heard hub mail => if hub = .link 0 .state then mail.notice? else none
  | _ => none

namespace Deed

/-- What can be seen of a session and of these listeners. -/
def sight? (link : Nat) (audience : List (Nat × Listener)) : Deed → Option Sight
  | .stepped l _ o => if l = link then some (.stepped o) else none
  | .called hub mail e =>
    if hub = .link link .state ∧ e ∈ audience then mail.notice?.map fun n => .told n e.1 else none
  | .began _ _ _ | .returned _ _ _ | .ended _ => none

def notices (link : Nat) : Deed → List Notice
  | .stepped l _ o => if l = link then o.notices else []
  | _ => []

/-- The notice of a change of state with which a listener is called. -/
def toldOf? (link : Nat) (e : Nat × Listener) : Deed → Option Notice
  | .called hub mail e' => if hub = .link link .state ∧ e' = e then mail.notice? else none
  | _ => none

end Deed

namespace World

variable {w w' w'' : World} {hub : Hub} {audience : List (Nat × Listener)} {link k : Nat} {s : Session}
  {h h' : Hall} {mail : Mail} {ds ds' : List Deed} {ahead rest : List Call}

/-! ## Who is there -/

/-- Some registrations are old ones, and nobody else who is registered comes in between. -/
structure Enrolled (hub : Hub) (audience : List (Nat × Listener)) (w : World) : Prop where
  old : ∀ e ∈ audience, e.1 < (w.registry hub).next
  among : ((w.registry hub).entries.filter fun e => e ∈ audience).Sublist audience
  boxes : ∀ e ∈ audience, ∀ box, e.2 = .mailbox box → box < w.mailboxes.length

structure Attend (hub : Hub) (audience : List (Nat × Listener)) (w : World) : Prop where
  registered : ∀ e ∈ audience, e ∈ (w.registry hub).entries
  present : ∀ e ∈ audience, w.present e.2

/-- Listeners come and go, and mailboxes are closed. -/
structure Since (hub : Hub) (w w' : World) : Prop where
  registry : (w.registry hub).Becomes (w'.registry hub)
  length : w.mailboxes.length ≤ w'.mailboxes.length
  present : ∀ box < w.mailboxes.length, w'.present (.mailbox box) → w.present (.mailbox box)

theorem Enrolled.since (he : Enrolled hub audience w) (h : Since hub w w') : Enrolled hub audience w' where
  old e hmem := Nat.lt_of_lt_of_le (he.old e hmem) h.registry.next
  among := by
    have hold : (w'.registry hub).entries.filter (fun e => e ∈ audience) =
        ((w'.registry hub).entries.filter fun e => decide (e.1 < (w.registry hub).next)).filter
          fun e => e ∈ audience := by
      rw [List.filter_filter]
      refine List.filter_congr fun e _ => ?_
      by_cases hmem : e ∈ audience <;> simp [hmem, he.old e]
    rw [hold]
    exact (h.registry.old.filter _).trans he.among
  boxes e hmem box hbox := Nat.lt_of_lt_of_le (he.boxes e hmem box hbox) h.length

theorem Attend.before (ha : Attend hub audience w') (he : Enrolled hub audience w) (h : Since hub w w') :
    Attend hub audience w where
  registered e hmem := by
    refine h.registry.old.subset (List.mem_filter.2 ⟨ha.registered e hmem, ?_⟩)
    simpa using he.old e hmem
  present e hmem := by
    have hpresent := ha.present e hmem
    cases hl : e.2 with
    | mailbox box => exact h.present box (he.boxes e hmem box hl) (hl ▸ hpresent)
    | _ => rfl

theorem Attend.filter_eq (ha : Attend hub audience w) (he : Enrolled hub audience w) (hnodup : audience.Nodup) :
    ((w.registry hub).entries.filter fun e => e ∈ audience) = audience := by
  refine he.among.eq_of_length_le ?_
  have hsubset : audience ⊆ (w.registry hub).entries.filter fun e => e ∈ audience := fun e hmem =>
    List.mem_filter.2 ⟨ha.registered e hmem, by simpa using hmem⟩
  exact (hnodup.subperm hsubset).length_le

theorem Evolves.since (h : Evolves w ds w') (hub : Hub) : Since hub w w' :=
  ⟨(h.goes hub).becomes (within_hub hub), h.present.1, h.present.2⟩

theorem Announces.since {hub' : Hub} {mails : List Mail} (h : Announces hub' mails w ds w') (hub : Hub) :
    Since hub w w' :=
  have hpresent := h.cumulative cumulative_present
  ⟨(h.goes hub).becomes (within_hub hub), hpresent.1, hpresent.2⟩

theorem Tells.since {hub' : Hub} {call : Listener → World → World × Verdict} {es : List (Nat × Listener)}
    (h : Tells hub' mail call es w ds) (hub : Hub) : Since hub w (deliver call es w).1 := by
  obtain ⟨hlength, hpresent⟩ := h.cumulative cumulative_present
  refine ⟨?_, hlength, hpresent⟩
  by_cases hhub : hub' = hub
  · exact ((h.goes hub).1 hhub).becomes (within_hub hub)
  · exact ((h.goes hub).2 hhub).becomes (within_hub hub)

theorem since_sift (hub hub' : Hub) (p : Nat × Listener → Bool) (w : World) :
    Since hub w (w.updateRegistry hub' (Registry.sift p)) := by
  refine ⟨?_, Nat.le_of_eq (by rw [mailboxes_updateRegistry]), fun box _ hp => ?_⟩
  · rw [registry_updateRegistry rfl]
    split
    · next heq => exact heq ▸ Registry.becomes_sift p _
    · exact .refl _
  · rwa [World.present, mailboxes_updateRegistry] at hp

theorem since_follow (hub : Hub) (o : Bosh.Outcome) (w : World) : Since hub w (w.follow link o) := by
  have hregistry := registry_follow link o hub w
  obtain ⟨queue, hfollow⟩ := follow_eq link o w
  refine ⟨hregistry ▸ .refl _, ?_, fun box _ hp => ?_⟩
  · rw [hfollow]
    exact Nat.le_refl _
  · rw [hfollow] at hp
    exact hp

/-! ## A session and those who listen to it -/

/-- What has become of a session that was in the state `s`, and of those who listen to it. -/
structure Follows (link : Nat) (s : Session) (audience : List (Nat × Listener)) (w : World) (h : Hall) : Prop where
  reached : Hall.Reached True (audience.map Prod.fst) s h
  session : w.session? link = some h.session

/-- What has become of them with some deeds, and what is ahead. -/
def Hosts (link : Nat) (s : Session) (audience : List (Nat × Listener)) (h : Hall) (ahead : List Call)
    (ds : List Deed) (w : World) : Prop :=
  ∃ h', Follows link s audience w h' ∧ h'.ahead = ahead ∧ h.made <+: h'.made ∧
    h'.shown = h.shown ++ ds.filterMap (Deed.sight? link audience)

theorem Follows.hosts (hf : Follows link s audience w h) (hahead : h.ahead = ahead) :
    Hosts link s audience h ahead [] w :=
  ⟨h, hf, hahead, List.prefix_rfl, (List.append_nil _).symm⟩

theorem Hosts.cons {d : Deed} (hh : Hosts link s audience h' ahead ds w) (hmade : h.made <+: h'.made)
    (hshown : h'.shown = h.shown ++ (d.sight? link audience).toList) : Hosts link s audience h ahead (d :: ds) w := by
  obtain ⟨h'', hf, hahead, hmade', hshown'⟩ := hh
  refine ⟨h'', hf, hahead, hmade.trans hmade', ?_⟩
  rw [hshown', hshown, List.append_assoc]
  cases hsight : d.sight? link audience <;> simp [hsight]

theorem Hosts.cons_other {d : Deed} (hh : Hosts link s audience h ahead ds w) (hd : d.sight? link audience = none) :
    Hosts link s audience h ahead (d :: ds) w :=
  hh.cons List.prefix_rfl (by simp [hd])

theorem Hosts.append (hh : Hosts link s audience h rest ds w)
    (hnext : ∀ {h'}, Follows link s audience w h' → h'.ahead = rest → h.made <+: h'.made →
      Hosts link s audience h' ahead ds' w') : Hosts link s audience h ahead (ds ++ ds') w' := by
  obtain ⟨h', hf, hahead, hmade, hshown⟩ := hh
  obtain ⟨h'', hf', hahead', hmade', hshown'⟩ := hnext hf hahead hmade
  refine ⟨h'', hf', hahead', hmade.trans hmade', ?_⟩
  rw [hshown', hshown, List.filterMap_append, List.append_assoc]

/-- The calls that an event has ahead, if it is a change of state. -/
def due (link : Nat) (audience : List (Nat × Listener)) (hub : Hub) (k : Nat) (es : List (Nat × Listener)) :
    List Call :=
  (es.filter fun e => hub = .link link .state ∧ e ∈ audience).map fun e => ⟨k, e.1⟩

def dueAll (link : Nat) (audience : List (Nat × Listener)) (hub : Hub) (first count : Nat) : List Call :=
  if hub = .link link .state then Call.announce (audience.map Prod.fst) first count else []

theorem dueAll_succ (hnodup : audience.Nodup) (he : Enrolled (.link link .state) audience w)
    (ha : Attend (.link link .state) audience w) (first count : Nat) : dueAll link audience hub first (count + 1) =
      due link audience hub first (w.registry hub).entries ++ dueAll link audience hub (first + 1) count := by
  by_cases hhub : hub = .link link .state
  · subst hhub
    have hfilter := ha.filter_eq he hnodup
    simp only [due, dueAll, true_and, if_true, hfilter, Call.announce_succ, List.map_map]
    rfl
  · simp [due, dueAll, hhub]

/-- A listener that is called hears what is ahead of it, if it is one of those. -/
theorem Follows.called {e : Nat × Listener} {es : List (Nat × Listener)} (hf : Follows link s audience w h)
    (hsession : w'.session? link = w.session? link)
    (hmail : hub = .link link .state → ∃ n, mail = .notice n ∧ (h.made.map Made.notice)[k]? = some n)
    (hahead : h.ahead = due link audience hub k (e :: es) ++ rest) :
    ∃ h', Follows link s audience w' h' ∧ h'.ahead = due link audience hub k es ++ rest ∧ h'.made = h.made ∧
      h'.shown = h.shown ++ (Deed.sight? link audience (.called hub mail e)).toList := by
  by_cases hhears : hub = .link link .state ∧ e ∈ audience
  · obtain ⟨n, rfl, hn⟩ := hmail hhears.1
    have hdue : due link audience hub k (e :: es) = ⟨k, e.1⟩ :: due link audience hub k es := by
      simp [due, hhears]
    rw [hdue, List.cons_append] at hahead
    have hheard := Hall.Reached.hear (List.nil_append _ ▸ hahead) (List.forall_mem_nil _) (fun _ => rfl) hf.reached
    refine ⟨_, ⟨hheard, hsession.trans hf.session⟩, rfl, rfl, ?_⟩
    obtain ⟨m, hm, rfl⟩ := Option.map_eq_some_iff.1 (List.getElem?_map .. ▸ hn)
    simp [Hall.hear, hm, Deed.sight?, hhears, Mail.notice?]
  · have hdue : due link audience hub k (e :: es) = due link audience hub k es := by
      simp only [due]
      rw [List.filter_cons_of_neg (by simpa using hhears)]
    refine ⟨h, ⟨hf.reached, hsession.trans hf.session⟩, hdue ▸ hahead, rfl, ?_⟩
    simp [Deed.sight?, hhears]

/-- A session takes a step. Nothing has been announced yet. -/
theorem Follows.step {link' : Nat} {s' : Session} {i : Bosh.Input} (hf : Follows link s audience w h)
    (hs : w.session? link' = some s') :
    ∃ h', Follows link s audience (w.follow link' (s'.step w.now i)) h' ∧
      h'.ahead = dueAll link audience (.link link' .state) h.made.length (s'.step w.now i).notices.length ++ h.ahead ∧
      h.made <+: h'.made ∧
      h'.shown = h.shown ++ (Deed.sight? link audience (.stepped link' i (s'.step w.now i))).toList ∧
      (link' = link → (h'.made.map Made.notice).drop h.made.length = (s'.step w.now i).notices) := by
  by_cases hlink : link' = link
  · subst hlink
    obtain rfl : s' = h.session := Option.some.inj (hs.symm.trans hf.session)
    refine ⟨_, ⟨hf.reached.step w.now i, ?_⟩, ?_, List.prefix_append _ _, ?_, fun _ => ?_⟩
    · rw [session?_follow hs, if_pos rfl]
      rfl
    · simp [Hall.step, dueAll]
    · simp [Hall.step, Deed.sight?]
    · simp [Hall.step, Function.comp_def]
  · refine ⟨h, ⟨hf.reached, ?_⟩, ?_, List.prefix_rfl, ?_, fun heq => absurd heq hlink⟩
    · rw [session?_follow hs, if_neg fun heq => hlink heq.symm]
      exact hf.session
    · simp [dueAll, hlink]
    · simp [Deed.sight?, hlink]

/-! ## Whatever is done -/

mutual

/-- **Whatever is done** leaves what was ahead as it was. -/
theorem Evolves.hosts (hnodup : audience.Nodup) {w w' : World} {ds : List Deed} {h : Hall} :
    Evolves w ds w' → Enrolled (.link link .state) audience w → Attend (.link link .state) audience w' →
      Follows link s audience w h → Hosts link s audience h h.ahead ds w'
  | .quiet quiet => fun _ _ hf => Follows.hosts ⟨hf.reached, quiet.session _ _ hf.session⟩ rfl
  | .registers hub l w => fun _ _ hf =>
    Follows.hosts ⟨hf.reached, by rw [addListener, session?_updateRegistry, hf.session]⟩ rfl
  | .adopts _ w => fun _ _ hf => Follows.hosts ⟨hf.reached, session?_adoptLink hf.session _⟩ rfl
  | .steps session announced => fun he ha hf => by
    obtain ⟨h', hf', hahead, hmade, hshown, hnotices⟩ := hf.step session
    rw [← List.length_map Mail.notice] at hahead
    refine (announced.hosts hnodup (he.since (since_follow _ _ _)) ha hf' (fun hhub => ⟨_, rfl, ?_⟩) hahead).cons hmade
      hshown
    exact (hnotices (by simpa using hhub)).symm ▸ List.prefix_rfl
  | @Evolves.announces hub _ _ _ _ other announced => fun he ha hf => by
    have hnone : h.ahead = dueAll link audience hub 0 1 ++ h.ahead := by
      rw [dueAll, if_neg (other link), List.nil_append]
    exact announced.hosts hnodup he ha hf (fun hhub => absurd hhub (other link)) hnone
  | .trans former latter => fun he ha hf => by
    have hmid := he.since (former.since _)
    refine (former.hosts hnodup he (ha.before hmid (latter.since _)) hf).append fun hf' hahead _ => ?_
    exact hahead ▸ latter.hosts hnodup hmid ha hf'

/-- Events leave what was ahead before them as it was. -/
theorem Announces.hosts (hnodup : audience.Nodup) {hub : Hub} {mails : List Mail} {w w' : World} {ds : List Deed}
    {h : Hall} {first : Nat} {rest : List Call} :
    Announces hub mails w ds w' → Enrolled (.link link .state) audience w →
      Attend (.link link .state) audience w' → Follows link s audience w h →
      (hub = .link link .state → ∃ ns : List Notice, mails = ns.map .notice ∧
        ns <+: (h.made.map Made.notice).drop first) →
      h.ahead = dueAll link audience hub first mails.length ++ rest → Hosts link s audience h rest ds w'
  | .nothing hub w => fun _ _ hf _ hahead => by
    refine hf.hosts (hahead.trans ?_)
    by_cases hhub : hub = .link link .state <;> simp [dueAll, hhub, Call.announce]
  | @Announces.next hub mail mails w w₁ w'' call ds ds' pruned tells later => fun he ha hf hmails hahead => by
    -- Who is there in the end is there all the time.
    have he₁ : Enrolled (.link link .state) audience w₁ := pruned ▸ he.since (since_sift _ hub _ w)
    have he₂ := he₁.since (tells.since _)
    have hretired : Since (.link link .state) (deliver call (w₁.registry hub).entries w₁).1
        (emit (registry hub) (updateRegistry hub) World.present call w).1 := by
      rw [emit, pruned]
      exact since_sift _ hub _ _
    have he₃ := he₂.since hretired
    have ha₂ := (ha.before he₃ (later.since _)).before he₂ hretired
    have hf₁ : Follows link s audience w₁ h := ⟨hf.reached, by rw [← pruned, session?_updateRegistry, hf.session]⟩
    rw [List.length_cons, dueAll_succ hnodup he₁ (ha₂.before he₁ (tells.since _)), List.append_assoc] at hahead
    have hsplit : hub = .link link .state → ∃ n ns, mail = .notice n ∧ mails = ns.map .notice ∧
        (h.made.map Made.notice)[first]? = some n ∧ ns <+: (h.made.map Made.notice).drop (first + 1) := by
      intro hhub
      obtain ⟨ns, hmap, more, hmore⟩ := hmails hhub
      obtain ⟨n, ns, rfl, rfl, rfl⟩ := List.map_eq_cons_iff.1 hmap.symm
      refine ⟨n, ns, rfl, rfl, ?_, more, ?_⟩
      · rw [← Nat.add_zero first, ← List.getElem?_drop, ← hmore]
        rfl
      · rw [← List.tail_drop, ← hmore]
        rfl
    have hfirst : hub = .link link .state → ∃ n, mail = .notice n ∧ (h.made.map Made.notice)[first]? = some n := by
      intro hhub
      obtain ⟨n, -, hmail, -, hn, -⟩ := hsplit hhub
      exact ⟨n, hmail, hn⟩
    refine Hosts.cons_other (.append (tells.hosts hnodup he₁ ha₂ hf₁ hfirst hahead) fun hf₂ hahead₂ hmade₂ => ?_) rfl
    refine Hosts.cons_other (later.hosts hnodup he₃ ha ⟨hf₂.reached, ?_⟩ (fun hhub => ?_) hahead₂) rfl
    · rw [emit, pruned, session?_updateRegistry]
      exact hf₂.session
    · obtain ⟨-, ns, -, hmap, -, hprefix⟩ := hsplit hhub
      exact ⟨ns, hmap, hprefix.trans (List.IsPrefix.drop (hmade₂.map Made.notice) _)⟩

theorem Tells.hosts (hnodup : audience.Nodup) {hub : Hub} {mail : Mail}
    {call : Listener → World → World × Verdict} {es : List (Nat × Listener)} {w : World} {ds : List Deed} {h : Hall}
    {k : Nat} {rest : List Call} :
    Tells hub mail call es w ds → Enrolled (.link link .state) audience w →
      Attend (.link link .state) audience (deliver call es w).1 → Follows link s audience w h →
      (hub = .link link .state → ∃ n, mail = .notice n ∧ (h.made.map Made.notice)[k]? = some n) →
      h.ahead = due link audience hub k es ++ rest → Hosts link s audience h rest ds (deliver call es w).1
  | .nobody w => fun _ _ hf _ hahead => hf.hosts hahead
  | @Tells.keeps hub mail call e es w ds passive kept later => fun he ha hf hmail hahead => by
    have hsince := (Tells.keeps passive kept (.nobody _)).since (.link link .state)
    have hsession : (call e.2 w).1.session? link = w.session? link := by rw [kept, session?_takeDown]
    obtain ⟨h', hf', hahead', hmade, hshown⟩ := hf.called hsession hmail hahead
    have hlater := later.hosts hnodup (he.since hsince) ha hf' (hmade ▸ hmail) hahead'
    exact (hlater.cons_other rfl).cons (hmade ▸ List.prefix_rfl) hshown
  | @Tells.handles hub mail call e es w ds ds' active evolves later => fun he ha hf hmail hahead => by
    have he' := he.since (evolves.since _)
    obtain ⟨h', hf', hahead', hmade, hshown⟩ := hf.called rfl hmail hahead
    refine (Hosts.append (evolves.hosts hnodup he (ha.before he' (later.since _)) hf') ?_).cons
      (hmade ▸ List.prefix_rfl) hshown
    intro h'' hf'' hahead'' hmade''
    refine (later.hosts hnodup he' ha hf'' (fun hhub => ?_) (hahead''.trans hahead')).cons_other rfl
    obtain ⟨n, rfl, hn⟩ := hmail hhub
    obtain ⟨more, hmore⟩ := (hmade ▸ hmade'' : h.made <+: h''.made).map Made.notice
    rw [← hmore, List.getElem?_append_left (List.getElem?_eq_some_iff.1 hn).1]
    exact ⟨n, rfl, hn⟩

end

/-! ## What everybody hears -/

/-- Who is registered and there, and still is afterwards. -/
def lasting (hub : Hub) (w w' : World) : List (Nat × Listener) :=
  (w.registry hub).entries.filter fun e => w.present e.2 ∧ e ∈ (w'.registry hub).entries ∧ w'.present e.2

theorem enrolled_lasting (hn : (w.registry hub).Numbered) (w' : World) : Enrolled hub (lasting hub w w') w where
  old e hmem := hn.bounded e (List.filter_sublist.subset hmem)
  among := by
    have hsame : ((w.registry hub).entries.filter fun e => e ∈ lasting hub w w') = lasting hub w w' := by
      refine List.filter_congr fun e hmem => ?_
      rw [Bool.eq_iff_iff, decide_eq_true_iff, lasting, List.mem_filter, and_iff_right hmem]
    rw [hsame]
  boxes e hmem box hbox := by
    obtain ⟨hpresent, -⟩ := of_decide_eq_true (List.mem_filter.1 hmem).2
    by_contra hge
    rw [hbox, World.present, List.getElem?_eq_none (Nat.not_lt.1 hge)] at hpresent
    cases hpresent

theorem attend_lasting (hub : Hub) (w w' : World) : Attend hub (lasting hub w w') w' where
  registered _ hmem := (of_decide_eq_true (List.mem_filter.1 hmem).2).2.1
  present _ hmem := (of_decide_eq_true (List.mem_filter.1 hmem).2).2.2

theorem toldOf_sight (hnumbers : (audience.map Prod.fst).Nodup) {e : Nat × Listener} (he : e ∈ audience)
    (ds : List Deed) : (ds.filterMap (Deed.sight? link audience)).filterMap (Sight.toldOf e.1) =
      ds.filterMap (Deed.toldOf? link e) := by
  rw [List.filterMap_filterMap]
  refine List.filterMap_congr fun d _ => ?_
  cases d with
  | stepped l i o => by_cases hl : l = link <;> simp [Deed.sight?, Deed.toldOf?, Sight.toldOf, hl]
  | called hub mail e' =>
    have hiff : e' ∈ audience ∧ e'.1 = e.1 ↔ e' = e := by
      refine ⟨fun h => List.inj_on_of_nodup_map hnumbers h.1 he h.2, ?_⟩
      rintro rfl
      exact ⟨he, rfl⟩
    by_cases hhub : hub = .link link .state
    · by_cases hsame : e' = e
      · cases hmail : mail.notice? <;> simp [Deed.sight?, Deed.toldOf?, Sight.toldOf, hhub, hsame, he, hmail]
      · have hother := mt hiff.1 hsame
        by_cases hmem : e' ∈ audience
        · have hne : e'.1 ≠ e.1 := fun heq => hother ⟨hmem, heq⟩
          cases hmail : mail.notice? <;> simp [Deed.sight?, Deed.toldOf?, Sight.toldOf, hhub, hsame, hmem, hmail, hne]
        · simp [Deed.sight?, Deed.toldOf?, hmem, hsame]
    · simp [Deed.sight?, Deed.toldOf?, hhub]
  | began | returned | ended => rfl

theorem notices_sight (link : Nat) (audience : List (Nat × Listener)) (ds : List Deed) :
    (ds.filterMap (Deed.sight? link audience)).flatMap Sight.notices = ds.flatMap (Deed.notices link) := by
  induction ds with
  | nil => rfl
  | cons d ds ih =>
    rw [List.flatMap_cons, ← ih]
    cases d with
    | stepped l i o => by_cases hl : l = link <;> simp [Deed.sight?, Deed.notices, Sight.notices, hl]
    | called hub mail e =>
      by_cases hhears : hub = .link link .state ∧ e ∈ audience <;> cases hmail : mail.notice? <;>
        simp [Deed.sight?, Deed.notices, Sight.notices, hhears, hmail]
    | began | returned | ended => rfl

/-- **In which order changes of state are heard.** Whatever is done in a program, and whatever its listeners do when
they are called: those who are registered before and stay hear of every change of state once. Each of them hears of a
later change before an earlier one exactly if it was still to be told of the earlier one when the later one was made,
and of all of them in the order in which they were made exactly if it never was. So all hear them in that order exactly
if no change is ever made while somebody is still to be told of an earlier one. Every run of a program is of this kind.

Where tasks run at the same time, they still hear of every change once, and of a later one first only if they were
still to be told of the earlier one when it was made. -/
theorem heard_in_order (hn : (w.registry (.link link .state)).Numbered) (hs : w.session? link = some s)
    (h : Evolves w ds w') :
    let audience := lasting (.link link .state) w w'
    (∃ hall, Hall.Reached True (audience.map Prod.fst) s hall ∧ w'.session? link = some hall.session ∧
      hall.ahead = [] ∧ hall.shown = ds.filterMap (Deed.sight? link audience) ∧
      hall.made.map Made.notice = ds.flatMap (Deed.notices link) ∧
      (∀ e ∈ audience, ds.filterMap (Deed.toldOf? link e) = hall.notices (hall.heardBy e.1) ∧
        (hall.heardBy e.1).Perm (List.range hall.made.length) ∧
        (∀ a b, a < b → b < hall.made.length →
          ([b, a].Sublist (hall.heardBy e.1) ↔ ⟨a, e.1⟩ ∈ hall.aheadAt b)) ∧
        (hall.heardBy e.1 = List.range hall.made.length ↔ ∀ n a, ⟨a, e.1⟩ ∉ hall.aheadAt n)) ∧
      ((∀ e ∈ audience, hall.heardBy e.1 = List.range hall.made.length) ↔ ∀ m ∈ hall.made, m.ahead = [])) ∧
    (∀ ts, ∃ ds, Evolves w ds (w.after ts)) ∧
    ∀ (numbers : List Nat) (hall : Hall), numbers.Nodup → Hall.Reached False numbers s hall → hall.ahead = [] →
      (∀ j ∈ numbers, (hall.heardBy j).Perm (List.range hall.made.length) ∧
        ∀ a b, a < b → [b, a].Sublist (hall.heardBy j) → ⟨a, j⟩ ∈ hall.aheadAt b) ∧
      ((∀ m ∈ hall.made, m.ahead = []) → ∀ j ∈ numbers, hall.heardBy j = List.range hall.made.length) := by
  intro audience
  have hnumbers : (audience.map Prod.fst).Nodup := hn.nodup.sublist (List.filter_sublist.map _)
  have hheard : ∀ {hall : Hall}, hall.ahead = [] → ∀ j, hall.hears j = hall.heardBy j := by
    intro hall hahead j
    rw [Hall.hears, Hall.aheadOf, hahead, Call.ofListener_nil, List.append_nil]
  refine ⟨?_, fun ts => evolves_after ts w, fun numbers hall hnodup hr hahead => ⟨fun j hj => ?_, fun hnone j hj => ?_⟩⟩
  · have hstart : Follows link s audience w { session := s } := ⟨.opening, hs⟩
    obtain ⟨hall, hf, hahead, -, hshown⟩ :=
      h.hosts hnumbers.of_map (enrolled_lasting hn w') (attend_lasting _ w w') hstart
    have hr := hf.reached
    refine ⟨hall, hr, hf.session, hahead, hshown, ?_, fun e he => ?_, ?_⟩
    · rw [Hall.made_of_reached hr, hshown, List.nil_append, notices_sight]
    · have htold := Hall.told_of_reached hnumbers (List.mem_map_of_mem he) hr
      rw [← hheard hahead]
      refine ⟨?_, htold.perm, fun a b => htold.sublist_iff trivial, htold.hears_eq_range_iff trivial⟩
      rw [hheard hahead, ← Hall.shown_of_reached hr, hshown, List.nil_append, toldOf_sight hnumbers he]
    · have hall_iff := Hall.hears_eq_range_iff_of_reached hnumbers trivial hr
      simpa only [List.forall_mem_map, hheard hahead] using hall_iff
  · have htold := Hall.told_of_reached hnodup hj hr
    rw [← hheard hahead]
    exact ⟨htold.perm, fun a b => htold.ahead_of_sublist⟩
  · rw [← hheard hahead]
    exact Hall.hears_eq_range_of_reached hnodup hr hnone hj

/-! ## Listeners in a hurry -/

/-- A session whose first request is not answered yet. -/
def unanswered : Session :=
  { settings := some { httpBase := "http://localhost/", hostName := "localhost" }, stream := some { rid := 1 }
    active := true, outstanding := 1 }

def watched : World :=
  { starts := fun _ => 0, nonce := "", mailboxes := [{}]
    links := [{ session := some unanswered, states := { entries := [(0, .script 0), (1, .mailbox 0)], next := 2 } }] }

def idle : Act := fun _ w => (w, .done)

/-- The listener ends the session when it hears that a request is to be repeated. -/
def impatient (mail : Mail) : Listener → World → World × Verdict
  | .script _, w =>
    match mail with
    | .notice (.waitingForRetry _ _) => (w.stepSession idle 0 .disconnect, .ok)
    | _ => (w, .ok)
  | l, w => (w.takeDown (.link 0 .state) mail l, .ok)

/-- The mailbox gets to know of the end first, which was made while the retry was still ahead of it. -/
theorem told_of_impatient : ∃ ds w' hall, Evolves watched ds w' ∧
    lasting (.link 0 .state) watched w' = [(0, .script 0), (1, .mailbox 0)] ∧ Hall.Reached True [0, 1] unanswered hall ∧
    hall.made.map Made.notice = [.waitingForRetry 1 2000, .disconnected "logged out"] ∧
    hall.notices (hall.heardBy 1) = [.disconnected "logged out", .waitingForRetry 1 2000] ∧
    ¬ ∀ m ∈ hall.made, m.ahead = [] := by
  have hn : (watched.registry (.link 0 .state)).Numbered := ⟨by decide, by decide⟩
  obtain ⟨ds, w', hevolves, hlasting, hmade, htold⟩ : ∃ ds w', Evolves watched ds w' ∧
      lasting (.link 0 .state) watched w' = [(0, .script 0), (1, .mailbox 0)] ∧
      ds.flatMap (Deed.notices 0) = [.waitingForRetry 1 2000, .disconnected "logged out"] ∧
      ds.filterMap (Deed.toldOf? 0 (1, .mailbox 0)) = [.disconnected "logged out", .waitingForRetry 1 2000] :=
    -- The request is not answered in time, and the listener ends the session inside of its call.
    ⟨_, _, @Evolves.steps 0 unanswered (.answer "" (.failure .timeout)) watched _ _ rfl
      (@Announces.next _ _ _ _ _ _ (impatient (.notice (.waitingForRetry 1 2000))) _ _ rfl
        (@Tells.handles _ _ _ (0, .script 0) _ _ _ _ rfl
          (@Evolves.steps 0 _ .disconnect _ _ _ rfl
            (@Announces.next _ _ _ _ _ _ (hear idle (.link 0 .state) (.notice (.disconnected "logged out"))) _ _ rfl
              (.handles rfl (.quiet (.refl _)) (.keeps rfl rfl (.nobody _))) (.nothing _ _)))
          (.keeps rfl rfl (.nobody _)))
        (.nothing _ _)), rfl, rfl, rfl⟩
  obtain ⟨⟨hall, hr, -, -, -, hnotices, htellings, horder⟩, -⟩ := heard_in_order hn rfl hevolves
  rw [hlasting] at hr htellings horder
  obtain ⟨htoldOf, -⟩ := htellings (1, .mailbox 0) (by decide)
  refine ⟨ds, w', hall, hevolves, hlasting, hr, hnotices.trans hmade, htoldOf ▸ htold, fun hnone => ?_⟩
  -- If nothing had been ahead, it would have heard of them as they were made.
  have hinOrder := horder.2 hnone (1, .mailbox 0) (by decide)
  rw [htoldOf, hinOrder, Hall.notices_range, hnotices, hmade] at htold
  revert htold
  decide

/-- A program with a listener that ends the session when it is first told of anything, and with a mailbox that has
registered after it. -/
def hasty : World :=
  let settings : Bosh.Settings := { httpBase := "http://localhost/", hostName := "localhost" }
  let w := ({ starts := fun _ => 0, nonce := "" } : World).newLink { settings := some settings }
  ((w.ask (.listen .state "a" [.disconnect] 1 .ok)).1.ask (.subscribe "m" false)).1

def assigned : Bosh.Reply := .response 200 "<body xmlns='http://jabber.org/protocol/httpbind' sid='s'/>"

/-- The session ends before the mailbox gets to know that it has begun. A recorder that has registered first hears
of both as they happen, the mailbox the other way round. -/
theorem out_of_order :
    let w := ((hasty.run .connect).1.run (.reply .oldest assigned)).1
    w.log.filterMap Event.state? = [.connected, .disconnected "logged out"] ∧
      (w.content 0).filterMap Mail.notice? = [.disconnected "logged out", .connected] := by
  decide +kernel

end World

end XmppBosh.Client
