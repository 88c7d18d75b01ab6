import XmppBosh.Proofs.Client.Hearing

/-!
# What stays while listeners are told

Every link of a program has a recorder on each kind of event, which has registered before everybody else. What it
hears is in the log.

* `Event.heardOn?`, `heardSince` : what a recorder has heard; `Recorded` : a hub has such a recorder;
* `Aside` : nothing has changed but who hears events, what they have heard, and how often they run commands;
* `Heeds`, `heeds` : what comes of it when a listener hears an event;
* `Bound` : what the listeners of a hub may do when they are called;
* `Stays`, `Stays.emit`, `Stays.tell`, `Stays.tellRecorded` : what stays while listeners are told and do what they
  may;
* `stepSession_of_session` : a step of a session, and who is told of it;
* `Overheard`, `Overheard.tell` : what a recorder has heard from listeners that do nothing from inside.
-/

namespace XmppBosh.Client

/-- What the recorder of a hub has heard, if that is what shows. -/
def Event.heardOn? (hub : Hub) : Event → Option Mail
  | .heard h mail => if h = hub then some mail else none
  | _ => none

def Event.isRequest : Event → Bool
  | .request _ _ => true
  | _ => false

/-- Something shows that is no request and was not heard on a hub. -/
def Event.Besides (hub : Hub) (e : Event) : Prop := e.isRequest = false ∧ e.heardOn? hub = none

namespace World

variable {w w' w'' : World} {hub hub₀ : Hub} {mail : Mail} {events events' : List Event} {act : Act}
  {l : Listener} {n : Nat}

def heardSince (hub : Hub) (w₀ w : World) : List Mail :=
  (w.log.drop w₀.log.length).filterMap (Event.heardOn? hub)

/-! ## Changes that are none of a session's -/

/-- Nothing has changed but who still hears events, what they have heard, and how often they run commands. These
events have shown. -/
structure Aside (events : List Event) (w w' : World) : Prop where
  link : w'.link = w.link
  session : ∀ id, w'.session? id = w.session? id
  exchanges : w'.exchanges = w.exchanges
  listeners : ∀ hub, (w'.registry hub).toList ⊆ (w.registry hub).toList
  scripts : ∀ (id : Nat) (s' : Script), w'.scripts[id]? = some s' →
    ∃ s : Script, w.scripts[id]? = some s ∧ s'.actions = s.actions ∧ s'.left ≤ s.left
  managers : ∀ id : Nat, (w'.managers[id]?).map Manager.link = (w.managers[id]?).map Manager.link
  log : w'.log = w.log ++ events

theorem Aside.trans (h : Aside events w w') (h' : Aside events' w' w'') : Aside (events ++ events') w w'' where
  link := h'.link.trans h.link
  session id := (h'.session id).trans (h.session id)
  exchanges := h'.exchanges.trans h.exchanges
  listeners hub := List.Subset.trans (h'.listeners hub) (h.listeners hub)
  scripts id s'' hs'' := by
    obtain ⟨s', hs', hactions', hleft'⟩ := h'.scripts id s'' hs''
    obtain ⟨s, hs, hactions, hleft⟩ := h.scripts id s' hs'
    exact ⟨s, hs, hactions'.trans hactions, Nat.le_trans hleft' hleft⟩
  managers id := (h'.managers id).trans (h.managers id)
  log := by rw [h'.log, h.log, List.append_assoc]

/-- Nothing changes that a session or a listener has a part in, the log aside. -/
theorem Aside.of_log (hlink : w'.link = w.link) (hlinks : w'.links = w.links) (hexchanges : w'.exchanges = w.exchanges)
    (hscripts : w'.scripts = w.scripts) (hmanagers : w'.managers = w.managers) (hlog : w'.log = w.log ++ events) :
    Aside events w w' where
  link := hlink
  session id := by rw [session?, hlinks, session?]
  exchanges := hexchanges
  listeners hub := by cases hub <;> simp only [registry, hlinks, hmanagers, List.Subset.refl]
  scripts id s' hs' := ⟨s', hscripts ▸ hs', rfl, Nat.le_refl _⟩
  managers id := by rw [hmanagers]
  log := hlog

theorem Aside.refl (w : World) : Aside [] w w := .of_log rfl rfl rfl rfl rfl (List.append_nil _).symm

theorem Aside.note (e : Event) (w : World) : Aside [e] w (w.note e) := .of_log rfl rfl rfl rfl rfl rfl

theorem Aside.deposit (box : Nat) (mail : Mail) (w : World) : Aside [] w (w.deposit box mail) := by
  rw [deposit_eq]
  exact .of_log rfl rfl rfl rfl rfl (List.append_nil _).symm

theorem Aside.spend (id : Nat) (w : World) :
    Aside [] w { w with scripts := w.scripts.modify id fun s => { s with left := s.left - 1 } } where
  link := rfl
  session _ := rfl
  exchanges := rfl
  listeners hub := by cases hub <;> exact List.Subset.refl _
  scripts i s' hs' := by
    rw [List.getElem?_modify] at hs'
    obtain ⟨s, hs, rfl⟩ := Option.map_eq_some_iff.1 hs'
    refine ⟨s, hs, ?_, ?_⟩ <;> split <;> simp
  managers _ := rfl
  log := (List.append_nil _).symm

theorem Aside.sift (hub : Hub) (p : Nat × Listener → Bool) (w : World) :
    Aside [] w (w.updateRegistry hub (Registry.sift p)) where
  link := by cases hub <;> rfl
  session id := session?_updateRegistry hub _ w id
  exchanges := by cases hub <;> rfl
  listeners other := by
    rw [registry_updateRegistry rfl]
    split
    · next heq => exact heq ▸ List.map_subset _ List.filter_sublist.subset
    · exact List.Subset.refl _
  scripts id s' hs' := by
    refine ⟨s', ?_, rfl, Nat.le_refl _⟩
    cases hub <;> exact hs'
  managers id := by
    cases hub with
    | link => rfl
    | results m =>
      by_cases hid : m = id
      · subst hid
        simp [updateRegistry, modifyManager, Function.comp_def]
      · simp [updateRegistry, modifyManager, hid]
  log := by cases hub <;> exact (List.append_nil _).symm

theorem mem_of_pruned (h : l ∈ ((w.updateRegistry hub (Registry.prune w.present)).registry hub).toList) :
    l ∈ (w.registry hub).toList :=
  (Aside.sift hub (fun e => w.present e.2) w).listeners hub h

/-! ## Recorders -/

/-- The first listener of a hub is a recorder, and the only one. Its number is its own. -/
def Recorded (n : Nat) (hub : Hub) (w : World) : Prop :=
  ∃ rest, (w.registry hub).entries = (n, .recorder) :: rest ∧ ∀ e ∈ rest, e.1 ≠ n ∧ e.2 ≠ .recorder

theorem Recorded.of_registry (h : w.Recorded n hub) (hr : w'.registry hub = w.registry hub) : w'.Recorded n hub := by
  rwa [Recorded, hr]

theorem Recorded.sift (h : w.Recorded n hub₀) {p : Nat × Listener → Bool} (hp : hub₀ = hub → p (n, .recorder)) :
    (w.updateRegistry hub (Registry.sift p)).Recorded n hub₀ := by
  have hregistry : (w.updateRegistry hub (Registry.sift p)).registry hub₀ =
      if hub₀ = hub then (w.registry hub).sift p else w.registry hub₀ :=
    registry_updateRegistry rfl hub hub₀ w
  by_cases heq : hub₀ = hub
  · subst heq
    obtain ⟨rest, hentries, hrest⟩ := h
    refine ⟨rest.filter p, ?_, fun e he => hrest e (List.filter_sublist.subset he)⟩
    rw [hregistry, if_pos rfl, Registry.sift, hentries, List.filter_cons_of_pos (hp rfl)]
  · rw [if_neg heq] at hregistry
    exact h.of_registry hregistry

/-! ## Listeners -/

/-- What comes of it when a listener hears an event. -/
inductive Heeds (act : Act) (hub : Hub) (mail : Mail) (w : World) : Listener → World → Prop
  /-- A recorder notes it down. -/
  | notes : Heeds act hub mail w .recorder (w.note (.heard hub mail))
  /-- A listener does nothing that concerns anybody else. -/
  | keeps {l : Listener} {w' : World} {events : List Event} (aside : Aside events w w')
    (besides : ∀ e ∈ events, ∀ hub, e.Besides hub) (registry : ∀ hub, w'.registry hub = w.registry hub) :
    Heeds act hub mail w l w'
  /-- A listener runs commands. -/
  | runs {id : Nat} {s : Script} {w' : World} {events : List Event} (script : w.scripts[id]? = some s)
    (left : s.left ≠ 0) (aside : Aside events w w') (besides : ∀ e ∈ events, ∀ hub, e.Besides hub)
    (registry : ∀ hub, w'.registry hub = w.registry hub) :
    Heeds act hub mail w (.script id) (w'.runActions act s.actions)

theorem heeds (act : Act) (hub : Hub) (mail : Mail) (l : Listener) (w : World) :
    Heeds act hub mail w l (hear act hub mail l w).1 := by
  cases l with
  | recorder => exact .notes
  | mailbox id =>
    refine .keeps (.deposit id mail w) (List.forall_mem_nil _) fun hub => ?_
    rw [hear, deposit_eq]
    cases hub <;> rfl
  | manager id => exact .keeps (.refl w) (List.forall_mem_nil _) fun _ => rfl
  | script id =>
    cases hs : w.scripts[id]? with
    | none =>
      have hstays : hear act hub mail (.script id) w = (w, .ok) := by simp [hear, callScript, hs]
      rw [hstays]
      exact .keeps (.refl w) (List.forall_mem_nil _) fun _ => rfl
    | some s =>
      have hbesides : ∀ e ∈ [Event.listener s.tag], ∀ hub, e.Besides hub :=
        List.forall_mem_singleton.2 fun _ => ⟨rfl, rfl⟩
      by_cases hleft : s.left = 0
      · have hcalled : hear act hub mail (.script id) w = (w.note (.listener s.tag), s.verdict) := by
          simp [hear, callScript, hs, hleft]
        rw [hcalled]
        exact .keeps (.note _ w) hbesides fun hub => by cases hub <;> rfl
      · have hcalled : (hear act hub mail (.script id) w).1 = World.runActions act s.actions
            { w.note (.listener s.tag) with
              scripts := w.scripts.modify id fun s => { s with left := s.left - 1 } } := by
          simp [hear, callScript, hs, hleft]
          rfl
        rw [hcalled]
        refine .runs hs hleft ((Aside.note _ w).trans (.spend id _)) ?_ fun hub => by cases hub <;> rfl
        exact hbesides

/-! ## What stays -/

/-- What some listeners may do when they are called. -/
def Bound (p : Command → Prop) (ls : List Listener) (w : World) : Prop :=
  ∀ id, .script id ∈ ls → ∀ s, w.scripts[id]? = some s → s.left = 0 ∨ ∀ c ∈ s.actions, p c

theorem Bound.aside {p : Command → Prop} {ls : List Listener} (h : Bound p ls w) (ha : Aside events w w') :
    Bound p ls w' := by
  intro id hid s' hs'
  obtain ⟨s, hs, hactions, hleft⟩ := ha.scripts id s' hs'
  rcases h id hid s hs with hzero | hp
  · exact .inl (by omega)
  · exact .inr (hactions ▸ hp)

/-- What stays as long as no request goes out and the recorder of a hub hears nothing. -/
structure Stays (n : Nat) (hub : Hub) (P : World → Prop) : Prop where
  recorded : ∀ {w}, P w → w.Recorded n hub
  aside : ∀ {w w' events}, P w → Aside events w w' → w'.Recorded n hub → (∀ e ∈ events, e.Besides hub) → P w'

namespace Stays

variable {P P' : World → Prop} {p : Command → Prop} {ls : List Listener}

theorem runActions (hP : Stays n hub₀ P) (hact : ∀ c, p c → ∀ {w}, P w → P (act c w).1) {cs : List Command}
    (hcs : ∀ c ∈ cs, p c) (h : P w) : P (w.runActions act cs) := by
  induction cs generalizing w with
  | nil => exact h
  | cons c cs ih =>
    rw [List.forall_mem_cons] at hcs
    have hdone := hact c hcs.1 h
    refine ih hcs.2 (hP.aside hdone (.note _ _) ?_ (List.forall_mem_singleton.2 ⟨rfl, rfl⟩))
    exact (hP.recorded hdone).of_registry (by cases hub₀ <;> rfl)

theorem hear (hP : Stays n hub₀ P) (hact : ∀ c, p c → ∀ {w}, P w → P (act c w).1)
    (hbound : ∀ {w}, P w → Bound p ls w) (hl : l ∈ ls) (hother : l = .recorder → hub ≠ hub₀) (h : P w) :
    P (hear act hub mail l w).1 := by
  have hheeds := heeds act hub mail l w
  generalize (World.hear act hub mail l w).1 = w' at hheeds
  cases hheeds with
  | notes =>
    refine hP.aside h (.note _ w) ((hP.recorded h).of_registry (by cases hub₀ <;> rfl)) ?_
    exact List.forall_mem_singleton.2 ⟨rfl, if_neg (hother rfl)⟩
  | keeps aside besides registry =>
    exact hP.aside h aside ((hP.recorded h).of_registry (registry hub₀)) fun e he => besides e he hub₀
  | runs script left aside besides registry =>
    have hkept := hP.aside h aside ((hP.recorded h).of_registry (registry hub₀)) fun e he => besides e he hub₀
    rcases hbound h _ hl _ script with hzero | hcs
    · exact absurd hzero left
    · exact hP.runActions hact hcs hkept

theorem sift (hP : Stays n hub₀ P) {p : Nat × Listener → Bool} (hp : hub₀ = hub → p (n, .recorder)) (h : P w) :
    P (w.updateRegistry hub (Registry.sift p)) :=
  hP.aside h (.sift hub p w) ((hP.recorded h).sift hp) (List.forall_mem_nil _)

theorem prune (hP : Stays n hub₀ P) (hub : Hub) (h : P w) : P (w.updateRegistry hub (Registry.prune w.present)) :=
  hP.sift (p := fun e => w.present e.2) (fun _ => rfl) h

theorem retire (hP : Stays n hub₀ P) {ids : List Nat} (hids : hub₀ = hub → n ∉ ids) (h : P w) :
    P (w.updateRegistry hub (Registry.retire ids)) :=
  hP.sift (p := fun e => !ids.contains e.1) (fun heq => by simpa using hids heq) h

/-- **An event on another hub.** -/
theorem emit (hP : Stays n hub₀ P) (hne : hub ≠ hub₀) {call : Listener → World → World × Verdict}
    (hcall : ∀ l ∈ (w.registry hub).toList, ∀ w, P w → P (call l w).1) (h : P w) :
    P (emit (registry hub) (updateRegistry hub) present call w).1 := by
  refine emit_induction (hP.prune hub h) (fun l hl => hcall l ?_) fun ids w' => hP.retire fun heq => ?_
  · exact mem_of_pruned hl
  · exact absurd heq.symm hne

theorem tell (hP : Stays n hub₀ P) (hact : ∀ c, p c → ∀ {w}, P w → P (act c w).1) (hne : hub ≠ hub₀)
    (hbound : ∀ {w'}, P w' → Bound p (w.registry hub).toList w') (h : P w) : P (w.tell act hub mail) :=
  hP.emit hne (fun _ hl _ => hP.hear hact hbound hl fun _ => hne) h

/-- **An event on the hub.** The recorder hears it first, and then everybody else. -/
theorem tellRecorded (hP : Stays n hub₀ P) (hP' : Stays n hub₀ P')
    (hnote : ∀ {w}, P w → P' (w.note (.heard hub₀ mail))) (hact : ∀ c, p c → ∀ {w}, P' w → P' (act c w).1)
    (hbound : ∀ {w'}, P' w' → Bound p (w.registry hub₀).toList w') (h : P w) : P' (w.tell act hub₀ mail) := by
  have hpruned := hP.prune hub₀ h
  have hsubset : ∀ l, l ∈ ((w.updateRegistry hub₀ (Registry.prune w.present)).registry hub₀).toList →
      l ∈ (w.registry hub₀).toList := fun l => mem_of_pruned
  unfold World.tell XmppBosh.emit
  simp only []
  generalize w.updateRegistry hub₀ (Registry.prune w.present) = w₁ at hpruned hsubset
  obtain ⟨rest, hentries, hrest⟩ := hP.recorded hpruned
  have hdelivered : P' (deliver (World.hear act hub₀ mail) rest (w₁.note (.heard hub₀ mail))).1 := by
    refine deliver_induction (hnote hpruned) fun e he w' => hP'.hear hact hbound ?_ fun heq => ?_
    · refine hsubset _ ?_
      rw [Registry.toList, hentries]
      exact List.mem_map_of_mem (List.mem_cons_of_mem _ he)
    · exact absurd heq (hrest e he).2
  rw [hentries]
  -- Only those who hear it after the recorder may be through.
  refine hP'.retire (fun _ hn => ?_) hdelivered
  have hclosed : n ∈ closedIds (deliver (World.hear act hub₀ mail) rest (w₁.note (.heard hub₀ mail))).2 := hn
  obtain ⟨a, -, hmem, -⟩ := called_of_mem_closedIds (P := fun _ => True) trivial (fun _ _ _ _ => trivial) hclosed
  exact (hrest _ hmem).1 rfl

end Stays

/-! ## Sessions -/

def setSession (link : Nat) (s : Bosh.Session) (w : World) : World :=
  w.modifyLink link fun l => { l with session := some s }

variable {link : Nat} {s t : Bosh.Session}

theorem session?_setSession (hs : (w.session? link).isSome) (s : Bosh.Session) (id : Nat) :
    (w.setSession link s).session? id = if id = link then some s else w.session? id := by
  by_cases hid : link = id
  · subst hid
    cases hl : w.links[link]? with
    | none => simp [session?, hl] at hs
    | some l => simp [setSession, modifyLink, session?, hl]
  · have hne : ¬ id = link := fun h => hid h.symm
    simp [setSession, modifyLink, session?, hid, hne]

theorem registry_setSession (link : Nat) (s : Bosh.Session) (hub : Hub) (w : World) :
    (w.setSession link s).registry hub = w.registry hub := by
  cases hub with
  | results => rfl
  | link id topic =>
    by_cases hid : link = id
    · subst hid
      cases hl : w.links[link]? with
      | none => simp [setSession, modifyLink, registry, hl]
      | some l => cases topic <;> simp [setSession, modifyLink, registry, hl, Link.registry]
    · simp [setSession, modifyLink, registry, hid]

theorem setSession_setSession (link : Nat) (s t : Bosh.Session) (w : World) :
    (w.setSession link s).setSession link t = w.setSession link t := by
  simp only [setSession, modifyLink, List.modify_modify_eq]
  rfl

theorem Aside.setSession (h : Aside events w w') (hs : (w.session? link).isSome) (s : Bosh.Session) :
    Aside events (w.setSession link s) (w'.setSession link s) where
  link := h.link
  session id := by
    rw [session?_setSession hs, session?_setSession (h.session link ▸ hs), h.session]
  exchanges := h.exchanges
  listeners hub := by
    rw [registry_setSession, registry_setSession]
    exact h.listeners hub
  scripts := h.scripts
  managers := h.managers
  log := h.log

/-- **A step of a session.** -/
theorem stepSession_of_session (act : Act) (hs : w.session? link = some s) (i : Bosh.Input) :
    w.stepSession act link i =
      let o := s.step w.now i
      o.notices.foldl (fun w n => w.tell act (.link link .state) (.notice n))
        (o.effects.foldl (doEffect link) (w.setSession link o.session)) := by
  simp only [stepSession, hs]
  rfl

/-! ## What a recorder has heard -/

/-- Since a state, nothing has changed that has to do with a session, and no request has gone out. The recorder of a
hub has heard this. -/
structure Overheard (n : Nat) (hub : Hub) (told : List Mail) (w₀ w : World) : Prop where
  aside : ∃ events, Aside events w₀ w ∧ (∀ e ∈ events, e.isRequest = false) ∧
    events.filterMap (Event.heardOn? hub) = told
  recorded : w.Recorded n hub

variable {w₀ : World} {told : List Mail}

theorem stays_overheard (n : Nat) (hub : Hub) (told : List Mail) (w₀ : World) :
    Stays n hub (Overheard n hub told w₀) where
  recorded h := h.recorded
  aside h haside hrecorded hbesides := by
    obtain ⟨events, hevents, hnone, htold⟩ := h.aside
    refine ⟨⟨_, hevents.trans haside, ?_, ?_⟩, hrecorded⟩
    · exact List.forall_mem_append.2 ⟨hnone, fun e he => (hbesides e he).1⟩
    · rw [List.filterMap_append, htold, List.filterMap_eq_nil_iff.2 fun e he => (hbesides e he).2, List.append_nil]

theorem Recorded.overheard (h : w.Recorded n hub) : Overheard n hub [] w w :=
  ⟨⟨[], .refl w, List.forall_mem_nil _, rfl⟩, h⟩

theorem Overheard.note (h : Overheard n hub told w₀ w) (mail : Mail) :
    Overheard n hub (told ++ [mail]) w₀ (w.note (.heard hub mail)) := by
  obtain ⟨events, hevents, hnone, htold⟩ := h.aside
  refine ⟨⟨_, hevents.trans (.note _ w), ?_, ?_⟩, h.recorded.of_registry (by cases hub <;> rfl)⟩
  · exact List.forall_mem_append.2 ⟨hnone, List.forall_mem_singleton.2 rfl⟩
  · rw [List.filterMap_append, htold]
    simp [Event.heardOn?]

theorem Overheard.setSession (h : Overheard n hub told w₀ w) (hs : (w₀.session? link).isSome) (s : Bosh.Session) :
    Overheard n hub told (w₀.setSession link s) (w.setSession link s) := by
  obtain ⟨events, hevents, hrest⟩ := h.aside
  exact ⟨⟨events, hevents.setSession hs s, hrest⟩, h.recorded.of_registry (registry_setSession ..)⟩

theorem Overheard.bound {p : Command → Prop} (h : Overheard n hub told w₀ w) {ls : List Listener}
    (hbound : Bound p ls w₀) : Bound p ls w := by
  obtain ⟨events, hevents, -⟩ := h.aside
  exact hbound.aside hevents

theorem Overheard.subset (h : Overheard n hub told w₀ w) (other : Hub) :
    (w.registry other).toList ⊆ (w₀.registry other).toList := by
  obtain ⟨events, hevents, -⟩ := h.aside
  exact hevents.listeners other

/-- **An event for listeners that do nothing from inside.** -/
theorem Overheard.tell (h : Overheard n hub told w₀ w) {other : Hub}
    (hmute : Bound (fun _ => False) (w₀.registry other).toList w₀) (act : Act) (mail : Mail) :
    Overheard n hub (told ++ if other = hub then [mail] else []) w₀ (w.tell act other mail) := by
  have hbound : ∀ {told w'}, Overheard n hub told w₀ w' → Bound (fun _ => False) (w.registry other).toList w' :=
    fun h' => h'.bound fun id hid => hmute id (h.subset other hid)
  by_cases heq : other = hub
  · subst heq
    rw [if_pos rfl]
    refine (stays_overheard n other told w₀).tellRecorded (stays_overheard n other _ w₀) (fun h' => h'.note mail)
      ?_ hbound h
    exact fun _ hc => hc.elim
  · rw [if_neg heq, List.append_nil]
    exact (stays_overheard n hub told w₀).tell (fun _ hc => hc.elim) heq hbound h

theorem Overheard.tellAll (h : Overheard n hub told w₀ w) {other : Hub}
    (hmute : Bound (fun _ => False) (w₀.registry other).toList w₀) (act : Act) (notices : List Bosh.Notice) :
    Overheard n hub (told ++ if other = hub then notices.map .notice else []) w₀
      (notices.foldl (fun w n => w.tell act other (.notice n)) w) := by
  induction notices generalizing told w with
  | nil => simpa using h
  | cons notice notices ih =>
    have htold := ih (h.tell hmute act (.notice notice))
    rw [List.append_assoc] at htold
    split at htold
    · next heq =>
      rw [if_pos heq]
      exact htold
    · next hne =>
      rw [if_neg hne]
      exact htold

end World

end XmppBosh.Client
