import XmppBosh.Proofs.Client.Recording
import XmppBosh.Proofs.Client.Telling
import XmppBosh.Proofs.Listeners.Nesting

/-!
# What can become of a program

The handlers of a program are somebody else's code. When one is called it may use the connections of the program in
whatever way, and so may the program itself. What is given is how a session takes its steps, and how events come to
those who listen.

* `Deed` : what is done on the way: steps of sessions, and events with the calls of listeners;
* `Evolves`, `Announces`, `Tells` : from one state to another by steps of sessions and by events, inside of each other;
  events for the listeners of a hub, one after the other; one event for some listeners;
* `Cumulative`, `Evolves.cumulative` : what every deed adds to, all of them together add up to;
* `Evolves.heard`, `Evolves.requests`, `Evolves.present` : what the recorders have heard and what has gone out is what
  was done, and a mailbox that is closed stays so;
* `Evolves.undergoes` : a session has taken the steps that were done, and no others;
* `Evolves.goes` : what has happened at a hub is what was done there.
-/

namespace XmppBosh.Client

inductive Deed where
  | stepped (link : Nat) (input : Bosh.Input) (outcome : Bosh.Outcome)
  /-- An event is announced to these listeners. -/
  | began (hub : Hub) (mail : Mail) (listeners : List (Nat × Listener))
  | called (hub : Hub) (mail : Mail) (listener : Nat × Listener)
  | returned (hub : Hub) (number : Nat) (verdict : Verdict)
  | ended (hub : Hub)

def Listener.isPassive : Listener → Bool
  | .recorder | .mailbox _ => true
  | .script _ | .manager _ => false

def Exchange.request (x : Exchange) : Nat × String := (x.link, x.text)

namespace Deed

def isStep (link : Nat) : Deed → Bool
  | .stepped l _ _ => l = link
  | _ => false

def requests : Deed → List (Nat × String)
  | .stepped link _ o => o.posts.map fun r => (link, r.text)
  | _ => []

/-- The mail with which a recorder of a hub is called. -/
def noted? (hub : Hub) : Deed → Option Mail
  | .called h mail (_, .recorder) => if h = hub then some mail else none
  | _ => none

def happening? (hub : Hub) : Deed → Option Happening
  | .stepped _ _ _ => none
  | .began h _ listeners => if h = hub then some (.began (listeners.map Prod.fst)) else none
  | .called h _ listener => if h = hub then some (.called listener.1) else none
  | .returned h n verdict => if h = hub then some (.returned n verdict) else none
  | .ended h => if h = hub then some .ended else none

end Deed

namespace World

variable {act : Act} {w w' w'' : World} {hub : Hub} {mail : Mail} {mails : List Mail} {ds ds' : List Deed} {link : Nat}
  {call : Listener → World → World × Verdict} {es : List (Nat × Listener)}

/-! ## What is done -/

/-- What a session asks for after a step is done. Nobody has been told of anything yet. -/
def follow (link : Nat) (o : Bosh.Outcome) (w : World) : World :=
  o.effects.foldl (doEffect link) (w.setSession link o.session)

def takeDown (hub : Hub) (mail : Mail) : Listener → World → World
  | .recorder, w => w.note (.heard hub mail)
  | .mailbox box, w => w.deposit box mail
  | .script _, w | .manager _, w => w

/-- Nothing has been done: no session has taken a step, nothing has gone out, and no listener has come, gone or heard
of anything. -/
structure Quiet (w w' : World) : Prop where
  session : ∀ link s, w.session? link = some s → w'.session? link = some s
  registry : ∀ hub, w'.registry hub = w.registry hub
  requests : w'.exchanges.map Exchange.request = w.exchanges.map Exchange.request
  length : w.mailboxes.length ≤ w'.mailboxes.length
  present : ∀ box < w.mailboxes.length, w'.present (.mailbox box) → w.present (.mailbox box)
  log : ∃ more, w'.log = w.log ++ more ∧ ∀ e ∈ more, ∀ hub, e.Besides hub

mutual

/-- From one state to another, listeners have registered, sessions have taken steps, and events have been announced,
and this has been done. Whatever else there is in a state may have changed. -/
inductive Evolves : World → List Deed → World → Prop
  | quiet {w w' : World} (quiet : Quiet w w') : Evolves w [] w'
  | registers (hub : Hub) (l : Listener) (w : World) : Evolves w [] (w.addListener hub l)
  | adopts {l : Link} (fresh : ∀ topic, l.registry topic = {} ∨ l.registry topic = recorded) (w : World) :
      Evolves w [] (w.adoptLink l)
  /-- A session takes a step, and what it announces is announced. -/
  | steps {link : Nat} {s : Bosh.Session} {i : Bosh.Input} {w w' : World} {ds : List Deed}
      (session : w.session? link = some s)
      (announced : Announces (.link link .state) ((s.step w.now i).notices.map .notice)
        (w.follow link (s.step w.now i)) ds w') : Evolves w (.stepped link i (s.step w.now i) :: ds) w'
  /-- Something else than a change of state is announced. -/
  | announces {hub : Hub} {mail : Mail} {w w' : World} {ds : List Deed} (other : ∀ link, hub ≠ .link link .state)
      (announced : Announces hub [mail] w ds w') : Evolves w ds w'
  | trans {w w' w'' : World} {ds ds' : List Deed} (former : Evolves w ds w') (latter : Evolves w' ds' w'') :
      Evolves w (ds ++ ds') w''

inductive Announces : Hub → List Mail → World → List Deed → World → Prop
  | nothing (hub : Hub) (w : World) : Announces hub [] w [] w
  | next {hub : Hub} {mail : Mail} {mails : List Mail} {w w' w'' : World}
      {call : Listener → World → World × Verdict} {ds ds' : List Deed}
      (pruned : w.updateRegistry hub (Registry.prune w.present) = w')
      (tells : Tells hub mail call (w'.registry hub).entries w' ds)
      (rest : Announces hub mails (emit (registry hub) (updateRegistry hub) present call w).1 ds' w'') :
      Announces hub (mail :: mails) w (.began hub mail (w'.registry hub).entries :: (ds ++ .ended hub :: ds')) w''

/-- Listeners have been called one after the other. Some only keep what they hear, and the others do whatever they
like. -/
inductive Tells : Hub → Mail → (Listener → World → World × Verdict) → List (Nat × Listener) → World → List Deed → Prop
  | nobody {hub : Hub} {mail : Mail} {call : Listener → World → World × Verdict} (w : World) :
      Tells hub mail call [] w []
  | keeps {hub : Hub} {mail : Mail} {call : Listener → World → World × Verdict} {e : Nat × Listener}
      {es : List (Nat × Listener)} {w : World} {ds : List Deed} (passive : e.2.isPassive)
      (kept : call e.2 w = (w.takeDown hub mail e.2, .ok)) (rest : Tells hub mail call es (call e.2 w).1 ds) :
      Tells hub mail call (e :: es) w (.called hub mail e :: .returned hub e.1 (call e.2 w).2 :: ds)
  | handles {hub : Hub} {mail : Mail} {call : Listener → World → World × Verdict} {e : Nat × Listener}
      {es : List (Nat × Listener)} {w : World} {ds ds' : List Deed} (active : e.2.isPassive = false)
      (evolves : Evolves w ds (call e.2 w).1) (rest : Tells hub mail call es (call e.2 w).1 ds') :
      Tells hub mail call (e :: es) w (.called hub mail e :: (ds ++ .returned hub e.1 (call e.2 w).2 :: ds'))

end

/-! ## One deed after the other -/

/-- What adds up, deed by deed. -/
structure Cumulative (P : World → List Deed → World → Prop) : Prop where
  trans : ∀ {w ds w' ds' w''}, P w ds w' → P w' ds' w'' → P w (ds ++ ds') w''
  quiet : ∀ {w w'}, Quiet w w' → P w [] w'
  registers : ∀ hub l w, P w [] (w.addListener hub l)
  adopts : ∀ {l : Link}, (∀ topic, l.registry topic = {} ∨ l.registry topic = recorded) → ∀ w, P w [] (w.adoptLink l)
  steps : ∀ {link s} (i : Bosh.Input) {w : World}, w.session? link = some s →
    P w [.stepped link i (s.step w.now i)] (w.follow link (s.step w.now i))
  began : ∀ hub mail ls w, P w [.began hub mail ls] (w.updateRegistry hub (Registry.prune w.present))
  keeps : ∀ hub mail {e : Nat × Listener} w, e.2.isPassive → P w [.called hub mail e] (w.takeDown hub mail e.2)
  calls : ∀ hub mail {e : Nat × Listener} w, e.2.isPassive = false → P w [.called hub mail e] w
  returned : ∀ hub n verdict w, P w [.returned hub n verdict] w
  ended : ∀ hub ids w, P w [.ended hub] (w.updateRegistry hub (Registry.retire ids))

theorem Quiet.refl (w : World) : Quiet w w :=
  ⟨fun _ _ h => h, fun _ => rfl, rfl, Nat.le_refl _, fun _ _ h => h, [], (List.append_nil _).symm,
    List.forall_mem_nil _⟩

section

variable {P : World → List Deed → World → Prop}

mutual

theorem Evolves.cumulative (hP : Cumulative P) {w w' : World} {ds : List Deed} : Evolves w ds w' → P w ds w'
  | .quiet quiet => hP.quiet quiet
  | .registers hub l w => hP.registers hub l w
  | .adopts fresh w => hP.adopts fresh w
  | .steps session announced => hP.trans (hP.steps _ session) (announced.cumulative hP)
  | .announces _ announced => announced.cumulative hP
  | .trans former latter => hP.trans (former.cumulative hP) (latter.cumulative hP)

theorem Announces.cumulative (hP : Cumulative P) {hub : Hub} {mails : List Mail} {w w' : World} {ds : List Deed} :
    Announces hub mails w ds w' → P w ds w'
  | .nothing _ w => hP.quiet (.refl w)
  | .next pruned tells rest => by
    have htold := tells.cumulative hP
    have hrest := rest.cumulative hP
    subst pruned
    exact hP.trans (hP.began hub _ _ w) (hP.trans htold (hP.trans (hP.ended hub _ _) hrest))

theorem Tells.cumulative (hP : Cumulative P) {hub : Hub} {mail : Mail} {call : Listener → World → World × Verdict}
    {es : List (Nat × Listener)} {w : World} {ds : List Deed} :
    Tells hub mail call es w ds → P w ds (deliver call es w).1
  | .nobody w => hP.quiet (.refl w)
  | .keeps passive kept rest => by
    have hafter : (call _ w).1 = w.takeDown hub mail _ := congrArg Prod.fst kept
    have hcalled := hP.keeps hub mail w passive
    rw [← hafter] at hcalled
    exact hP.trans hcalled (hP.trans (hP.returned hub _ _ _) (rest.cumulative hP))
  | .handles active evolves rest =>
    hP.trans (hP.calls hub mail w active)
      (hP.trans (evolves.cumulative hP) (hP.trans (hP.returned hub _ _ _) (rest.cumulative hP)))

end

end

/-! ## What shows -/

theorem log_updateRegistry (hub : Hub) (change : Registry Listener → Registry Listener) (w : World) :
    (w.updateRegistry hub change).log = w.log := by cases hub <;> rfl

theorem exchanges_updateRegistry (hub : Hub) (change : Registry Listener → Registry Listener) (w : World) :
    (w.updateRegistry hub change).exchanges = w.exchanges := by cases hub <;> rfl

theorem mailboxes_updateRegistry (hub : Hub) (change : Registry Listener → Registry Listener) (w : World) :
    (w.updateRegistry hub change).mailboxes = w.mailboxes := by cases hub <;> rfl

/-- What a session asks for changes the exchanges, the log and what is ready to run. -/
theorem follow_eq (link : Nat) (o : Bosh.Outcome) (w : World) : ∃ queue, w.follow link o =
    { w.setSession link o.session with
      exchanges := w.exchanges ++ o.posts.map fun r => { link, text := r.text }
      queue
      log := w.log ++ posted w.exchanges.length o.posts } :=
  doEffects_eq link o (w.setSession link o.session)

theorem cumulative_heard (hub : Hub) : Cumulative fun w ds w' => ∃ more, w'.log = w.log ++ more ∧
    more.filterMap (Event.heardOn? hub) = ds.filterMap (Deed.noted? hub) where
  trans h h' := by
    obtain ⟨more, hlog, hmore⟩ := h
    obtain ⟨more', hlog', hmore'⟩ := h'
    exact ⟨more ++ more', by rw [hlog', hlog, List.append_assoc], by rw [List.filterMap_append, hmore, hmore',
      List.filterMap_append]⟩
  quiet h := by
    obtain ⟨more, hlog, hmore⟩ := h.log
    exact ⟨more, hlog, List.filterMap_eq_nil_iff.2 fun e he => (hmore e he hub).2⟩
  registers hub' l w := ⟨[], by rw [addListener, log_updateRegistry, List.append_nil], rfl⟩
  adopts _ w := ⟨[], (List.append_nil _).symm, rfl⟩
  steps {link s} i w _ := by
    obtain ⟨queue, hfollow⟩ := follow_eq link (s.step w.now i) w
    refine ⟨_, congrArg log hfollow, List.filterMap_eq_nil_iff.2 fun e he => ?_⟩
    obtain ⟨r, -, rfl⟩ := List.mem_map.1 he
    rfl
  began hub' mail ls w := ⟨[], by rw [log_updateRegistry, List.append_nil], rfl⟩
  keeps hub' mail e w he := by
    obtain ⟨n, l⟩ := e
    cases l with
    | recorder => exact ⟨[.heard hub' mail], rfl, rfl⟩
    | mailbox box => exact ⟨[], by rw [takeDown, deposit_eq, List.append_nil], rfl⟩
    | script | manager => cases he
  calls hub' mail e w he := by
    obtain ⟨n, l⟩ := e
    cases l with
    | recorder | mailbox => cases he
    | script | manager => exact ⟨[], (List.append_nil _).symm, rfl⟩
  returned hub' n verdict w := ⟨[], (List.append_nil _).symm, rfl⟩
  ended hub' ids w := ⟨[], by rw [log_updateRegistry, List.append_nil], rfl⟩

/-- **What the recorders have heard** is what they were called with. -/
theorem Evolves.heard (h : Evolves w ds w') (hub : Hub) : heardSince hub w w' = ds.filterMap (Deed.noted? hub) := by
  obtain ⟨more, hlog, hmore⟩ := h.cumulative (cumulative_heard hub)
  rw [heardSince, hlog, List.drop_left, hmore]

theorem cumulative_requests : Cumulative fun w ds w' =>
    w'.exchanges.map Exchange.request = w.exchanges.map Exchange.request ++ ds.flatMap Deed.requests where
  trans h h' := by rw [h', h, List.flatMap_append, List.append_assoc]
  quiet h := by rw [h.requests, List.flatMap_nil, List.append_nil]
  registers hub l w := by rw [addListener, exchanges_updateRegistry, List.flatMap_nil, List.append_nil]
  adopts _ w := (List.append_nil _).symm
  steps {link s} i w _ := by
    obtain ⟨queue, hfollow⟩ := follow_eq link (s.step w.now i) w
    rw [hfollow]
    simp [Deed.requests, Exchange.request, Function.comp_def]
  began hub mail ls w := by
    rw [exchanges_updateRegistry]
    exact (List.append_nil _).symm
  keeps hub mail e w _ := by
    have hsame : (w.takeDown hub mail e.2).exchanges = w.exchanges := by
      cases e.2 with
      | mailbox box => rw [takeDown, deposit_eq]
      | _ => rfl
    rw [hsame]
    exact (List.append_nil _).symm
  calls hub mail e w _ := (List.append_nil _).symm
  returned hub n verdict w := (List.append_nil _).symm
  ended hub ids w := by
    rw [exchanges_updateRegistry]
    exact (List.append_nil _).symm

/-- **What has gone out** is what the sessions have handed over. -/
theorem Evolves.requests (h : Evolves w ds w') :
    w'.exchanges.map Exchange.request = w.exchanges.map Exchange.request ++ ds.flatMap Deed.requests :=
  h.cumulative cumulative_requests

theorem cumulative_present : Cumulative fun w _ w' => w.mailboxes.length ≤ w'.mailboxes.length ∧
    ∀ box < w.mailboxes.length, w'.present (.mailbox box) → w.present (.mailbox box) where
  trans h h' := ⟨Nat.le_trans h.1 h'.1, fun box hbox hp => h.2 box hbox (h'.2 box (Nat.lt_of_lt_of_le hbox h.1) hp)⟩
  quiet h := ⟨h.length, h.present⟩
  registers hub l w := by
    simp only [addListener, present, mailboxes_updateRegistry]
    exact ⟨Nat.le_refl _, fun _ _ h => h⟩
  adopts _ w := ⟨Nat.le_refl _, fun _ _ h => h⟩
  steps {link s} i w _ := by
    obtain ⟨queue, hfollow⟩ := follow_eq link (s.step w.now i) w
    rw [hfollow]
    exact ⟨Nat.le_refl _, fun _ _ h => h⟩
  began hub mail ls w := by
    simp only [present, mailboxes_updateRegistry]
    exact ⟨Nat.le_refl _, fun _ _ h => h⟩
  keeps hub mail e w he := by
    have hsame : (w.takeDown hub mail e.2).present = w.present ∧
        (w.takeDown hub mail e.2).mailboxes.length = w.mailboxes.length := by
      cases e.2 with
      | mailbox box =>
        refine ⟨present_deposit box mail w, ?_⟩
        rw [takeDown, deposit_eq]
        exact List.length_modify ..
      | recorder => exact ⟨by funext l; cases l <;> rfl, rfl⟩
      | _ => exact ⟨rfl, rfl⟩
    rw [hsame.1, hsame.2]
    exact ⟨Nat.le_refl _, fun _ _ h => h⟩
  calls hub mail e w _ := ⟨Nat.le_refl _, fun _ _ h => h⟩
  returned hub n verdict w := ⟨Nat.le_refl _, fun _ _ h => h⟩
  ended hub ids w := by
    simp only [present, mailboxes_updateRegistry]
    exact ⟨Nat.le_refl _, fun _ _ h => h⟩

theorem Evolves.present (h : Evolves w ds w') : w.mailboxes.length ≤ w'.mailboxes.length ∧
    ∀ box < w.mailboxes.length, w'.present (.mailbox box) → w.present (.mailbox box) :=
  h.cumulative cumulative_present

/-! ## Sessions -/

/-- A session has taken the steps among some deeds, one after the other. -/
inductive Undergoes (link : Nat) : Bosh.Session → List Deed → Bosh.Session → Prop
  | done (s : Bosh.Session) : Undergoes link s [] s
  | steps {s t : Bosh.Session} {i : Bosh.Input} {ds : List Deed} (now : Nat)
      (rest : Undergoes link (s.step now i).session ds t) : Undergoes link s (.stepped link i (s.step now i) :: ds) t
  | other {s t : Bosh.Session} {d : Deed} {ds : List Deed} (other : d.isStep link = false)
      (rest : Undergoes link s ds t) : Undergoes link s (d :: ds) t

theorem Undergoes.append {s t u : Bosh.Session} (h : Undergoes link s ds t) (h' : Undergoes link t ds' u) :
    Undergoes link s (ds ++ ds') u := by
  induction h with
  | done => exact h'
  | steps now _ ih => exact .steps now (ih h')
  | other hother _ ih => exact .other hother (ih h')

theorem session?_follow {s : Bosh.Session} (hs : w.session? link = some s) (o : Bosh.Outcome) (id : Nat) :
    (w.follow link o).session? id = if id = link then some o.session else w.session? id := by
  obtain ⟨queue, hfollow⟩ := follow_eq link o w
  have hsession := session?_setSession (Option.isSome_of_eq_some hs) o.session id
  rw [hfollow]
  exact hsession

theorem session?_adoptLink {s : Bosh.Session} (hs : w.session? link = some s) (l : Link) :
    (w.adoptLink l).session? link = some s := by
  cases hl : w.links[link]? with
  | none => simp [session?, hl] at hs
  | some x =>
    have hlt : link < w.links.length := (List.getElem?_eq_some_iff.1 hl).1
    rw [session?, adoptLink, List.getElem?_append_left hlt]
    exact hs

theorem session?_takeDown (hub : Hub) (mail : Mail) (l : Listener) (w : World) :
    (w.takeDown hub mail l).session? link = w.session? link := by
  cases l with
  | mailbox box =>
    rw [takeDown, deposit_eq]
    rfl
  | _ => rfl

theorem cumulative_undergoes (link : Nat) : Cumulative fun w ds w' => ∀ s, w.session? link = some s →
    ∃ t, w'.session? link = some t ∧ Undergoes link s ds t where
  trans h h' s hs := by
    obtain ⟨t, ht, hundergoes⟩ := h s hs
    obtain ⟨u, hu, hundergoes'⟩ := h' t ht
    exact ⟨u, hu, hundergoes.append hundergoes'⟩
  quiet h s hs := ⟨s, h.session link s hs, .done s⟩
  registers hub l w s hs := ⟨s, by rw [addListener, session?_updateRegistry, hs], .done s⟩
  adopts {l} _ w s hs := ⟨s, session?_adoptLink hs l, .done s⟩
  steps {link' s'} i w hs' s hs := by
    rw [session?_follow hs']
    by_cases hlink : link = link'
    · subst hlink
      obtain rfl : s = s' := Option.some.inj (hs.symm.trans hs')
      exact ⟨_, if_pos rfl, .steps _ (.done _)⟩
    · rw [if_neg hlink]
      exact ⟨s, hs, .other (decide_eq_false fun h => hlink h.symm) (.done s)⟩
  began hub mail ls w s hs := ⟨s, by rw [session?_updateRegistry, hs], .other rfl (.done s)⟩
  keeps hub mail e w _ s hs := ⟨s, by rw [session?_takeDown, hs], .other rfl (.done s)⟩
  calls hub mail e w _ s hs := ⟨s, hs, .other rfl (.done s)⟩
  returned hub n verdict w s hs := ⟨s, hs, .other rfl (.done s)⟩
  ended hub ids w s hs := ⟨s, by rw [session?_updateRegistry, hs], .other rfl (.done s)⟩

/-- **A session has taken the steps** that were done, and no others. -/
theorem Evolves.undergoes {s : Bosh.Session} (h : Evolves w ds w') (hs : w.session? link = some s) :
    ∃ t, w'.session? link = some t ∧ Undergoes link s ds t :=
  h.cumulative (cumulative_undergoes link) s hs

/-! ## Hubs -/

/-- One more link or manager brings its own listeners. -/
theorem getD_concat_or {β : Type} (f : β → Registry Listener) (xs : List β) (x : β) (i : Nat) :
    ((xs ++ [x])[i]?.map f).getD {} = (xs[i]?.map f).getD {} ∨
      ((xs ++ [x])[i]?.map f).getD {} = f x ∧ (xs[i]?.map f).getD {} = {} := by
  rcases Nat.lt_trichotomy i xs.length with hlt | rfl | hgt
  · exact .inl (by rw [List.getElem?_append_left hlt])
  · exact .inr (by simp)
  · have hnone : (xs ++ [x])[i]? = none := List.getElem?_eq_none (by simp; omega)
    have hnone' : xs[i]? = none := List.getElem?_eq_none (by omega)
    exact .inl (by rw [hnone, hnone'])

/-- What has happened at a hub on the way from one state to another. -/
abbrev GoesAt (hub : Hub) (w : World) (hs : List Happening) (w' : World) : Prop :=
  Goes (registry hub) (updateRegistry hub) World.present w hs w'

theorem goesAt_addListener (hub hub' : Hub) (l : Listener) (w : World) : GoesAt hub w [] (w.addListener hub' l) := by
  rcases registry_updateRegistry_or (fun r => r.add l) hub' hub w with ⟨rfl, h⟩ | ⟨-, h⟩
  · exact .registers l h
  · exact .still h

theorem goesAt_adoptLink {l : Link} (hl : ∀ topic, l.registry topic = {} ∨ l.registry topic = recorded) (hub : Hub)
    (w : World) : GoesAt hub w [] (w.adoptLink l) := by
  cases hub with
  | link id topic =>
    rcases getD_concat_or (fun l => l.registry topic) w.links l id with h | ⟨h, hnone⟩
    · exact .still h
    · rcases hl topic with hempty | hrecorded
      · exact .still (h.trans (hempty.trans hnone.symm))
      · have hempty : w.registry (.link id topic) = {} := hnone
        have hadded : (w.adoptLink l).registry (.link id topic) = (w.registry (.link id topic)).add .recorder := by
          rw [hempty]
          exact h.trans hrecorded
        exact .registers _ hadded
  | results => exact .still rfl

theorem registry_follow (link : Nat) (o : Bosh.Outcome) (hub : Hub) (w : World) :
    (w.follow link o).registry hub = w.registry hub := by
  obtain ⟨queue, hfollow⟩ := follow_eq link o w
  have hregistry := registry_setSession link o.session hub w
  rw [hfollow]
  cases hub <;> exact hregistry

theorem registry_takeDown (hub hub' : Hub) (mail : Mail) (l : Listener) (w : World) :
    (w.takeDown hub' mail l).registry hub = w.registry hub := by
  cases l with
  | mailbox box =>
    rw [takeDown, deposit_eq]
    cases hub <;> rfl
  | _ => cases hub <;> rfl

theorem registry_updateRegistry_of_ne {hub hub' : Hub} (hne : hub' ≠ hub)
    {change : Registry Listener → Registry Listener} (hchange : change {} = {}) (w : World) :
    (w.updateRegistry hub' change).registry hub = w.registry hub := by
  rw [registry_updateRegistry hchange, if_neg fun h => hne h.symm]

mutual

/-- **What has happened at a hub** is what was done there. -/
theorem Evolves.goes (hub : Hub) {w w' : World} {ds : List Deed} :
    Evolves w ds w' → GoesAt hub w (ds.filterMap (Deed.happening? hub)) w'
  | .quiet quiet => .still (quiet.registry hub)
  | .registers hub' l w => goesAt_addListener hub hub' l w
  | .adopts fresh w => goesAt_adoptLink fresh hub w
  | .steps _ announced => .trans (.still (registry_follow ..)) (announced.goes hub)
  | .announces _ announced => announced.goes hub
  | .trans former latter => by
    rw [List.filterMap_append]
    exact .trans (former.goes hub) (latter.goes hub)

theorem Announces.goes (hub : Hub) {hub' : Hub} {mails : List Mail} {w w' : World} {ds : List Deed} :
    Announces hub' mails w ds w' → GoesAt hub w (ds.filterMap (Deed.happening? hub)) w'
  | .nothing _ w => .still rfl
  | .next pruned tells rest => by
    have htold := tells.goes hub
    have hrest := rest.goes hub
    by_cases hhub : hub' = hub
    · subst hhub
      have hevent := (Goes.announces pruned (htold.1 rfl)).trans hrest
      simpa [Deed.happening?] using hevent
    · subst pruned
      have hpruned : GoesAt hub w [] (w.updateRegistry hub' (Registry.prune w.present)) :=
        .still (registry_updateRegistry_of_ne hhub rfl w)
      have hretired := Goes.trans (.still (registry_updateRegistry_of_ne hhub rfl _)) hrest
      have hevent := hpruned.trans ((htold.2 hhub).trans hretired)
      simpa [Deed.happening?, hhub] using hevent

theorem Tells.goes (hub : Hub) {hub' : Hub} {mail : Mail} {call : Listener → World → World × Verdict}
    {es : List (Nat × Listener)} {w : World} {ds : List Deed} : Tells hub' mail call es w ds →
      (hub' = hub → Delivers (registry hub) (updateRegistry hub) World.present call es w
        (ds.filterMap (Deed.happening? hub))) ∧
      (hub' ≠ hub → GoesAt hub w (ds.filterMap (Deed.happening? hub)) (deliver call es w).1)
  | .nobody w => ⟨fun _ => .nobody, fun _ => .still rfl⟩
  | .keeps (e := e) passive kept rest => by
    have hrest := rest.goes hub
    have hafter : (call e.2 w).1 = w.takeDown hub' mail e.2 := congrArg Prod.fst kept
    have hkept : GoesAt hub w [] (call e.2 w).1 := .still (hafter ▸ registry_takeDown ..)
    refine ⟨fun hhub => ?_, fun hhub => ?_⟩
    · simpa [Deed.happening?, hhub] using Delivers.next (e := e) hkept (hrest.1 hhub)
    · simpa [Deed.happening?, hhub, deliver] using hkept.trans (hrest.2 hhub)
  | .handles (e := e) active evolves rest => by
    have hgoes := evolves.goes hub
    have hrest := rest.goes hub
    refine ⟨fun hhub => ?_, fun hhub => ?_⟩
    · simpa [Deed.happening?, hhub] using Delivers.next (e := e) hgoes (hrest.1 hhub)
    · simpa [Deed.happening?, hhub, deliver] using hgoes.trans (hrest.2 hhub)

end

theorem Evolves.numbered (h : Evolves w ds w') (hn : (w.registry hub).Numbered) : (w'.registry hub).Numbered :=
  (h.goes hub).numbered (within_hub hub) hn

end World

end XmppBosh.Client
