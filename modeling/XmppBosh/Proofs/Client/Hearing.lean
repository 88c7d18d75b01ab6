import XmppBosh.Proofs.Client.Parts

/-!
# What an event does where no listener runs commands

* `Heard` : the mailboxes among some listeners have got a piece of mail, and the recorders have noted it down;
* `heard_hear`, `heard_deliver`, `heard_tell` : that is all that an event does where there are no scripts;
* `registry_updateRegistry`, `content_tell` : what becomes of the listeners and of what a mailbox holds.
-/

namespace XmppBosh.Client

namespace World

variable {act : Act} {w w' w'' : World} {hub : Hub} {mail : Mail} {ls ls' : List Listener}

/-! ## Listeners -/

/-- A change comes to the listeners of one hub, if there is such a hub. -/
theorem registry_updateRegistry_or (change : Registry Listener → Registry Listener) (hub other : Hub) (w : World) :
    other = hub ∧ (w.updateRegistry hub change).registry other = change (w.registry hub) ∨
      (other = hub → w.registry hub = {}) ∧ (w.updateRegistry hub change).registry other = w.registry other := by
  cases hub with
  | link id topic =>
    cases other with
    | link id' topic' =>
      by_cases hid : id = id'
      · subst hid
        cases hl : w.links[id]? with
        | none => simp [updateRegistry, modifyLink, registry, hl]
        | some l =>
          cases topic <;> cases topic' <;>
            simp [updateRegistry, modifyLink, registry, hl, Link.update, Link.registry]
      · have hne : ¬ id' = id := fun h => hid h.symm
        simp [updateRegistry, modifyLink, registry, hid, hne]
    | results id' => simp [updateRegistry, modifyLink, registry]
  | results id =>
    cases other with
    | link id' topic' => simp [updateRegistry, modifyManager, registry]
    | results id' =>
      by_cases hid : id = id'
      · subst hid
        cases hm : w.managers[id]? with
        | none => simp [updateRegistry, modifyManager, registry, hm]
        | some m => simp [updateRegistry, modifyManager, registry, hm]
      · have hne : ¬ id' = id := fun h => hid h.symm
        simp [updateRegistry, modifyManager, registry, hid, hne]

/-- The listeners of a hub after a change that leaves nobody where there was nobody. -/
theorem registry_updateRegistry {change : Registry Listener → Registry Listener} (hchange : change {} = {})
    (hub other : Hub) (w : World) : (w.updateRegistry hub change).registry other =
      if other = hub then change (w.registry hub) else w.registry other := by
  rcases registry_updateRegistry_or change hub other w with ⟨hsame, h⟩ | ⟨hempty, h⟩
  · rw [h, if_pos hsame]
  · split
    · next hsame =>
      subst hsame
      rw [h, hempty rfl, hchange]
    · exact h

theorem session?_updateRegistry (hub : Hub) (change : Registry Listener → Registry Listener) (w : World)
    (link : Nat) : (w.updateRegistry hub change).session? link = w.session? link := by
  cases hub with
  | results => rfl
  | link id topic =>
    by_cases hid : id = link
    · subst hid
      cases hl : w.links[id]? with
      | none => simp [updateRegistry, modifyLink, session?, hl]
      | some l => cases topic <;> simp [updateRegistry, modifyLink, session?, hl, Link.update]
    · simp [updateRegistry, modifyLink, session?, hid]

/-! ## Hearing -/

/-- Some listeners have heard an event: the mailboxes among them have got the mail, and the recorders have noted it
down. -/
structure Heard (hub : Hub) (mail : Mail) (ls : List Listener) (w w' : World) : Prop where
  same : w' = { w with mailboxes := w'.mailboxes, queue := w'.queue, log := w'.log }
  length : w'.mailboxes.length = w.mailboxes.length
  present : w'.present = w.present
  content : ∀ box, w'.content box =
    w.content box ++ List.replicate (if w.present (.mailbox box) then ls.count (.mailbox box) else 0) mail
  log : w'.log = w.log ++ List.replicate (ls.count .recorder) (.heard hub mail)

theorem Heard.nobody (hub : Hub) (mail : Mail) (w : World) (hrecorder : .recorder ∉ ls)
    (hmailbox : ∀ box, .mailbox box ∉ ls) : Heard hub mail ls w w :=
  ⟨rfl, rfl, rfl, fun box => by simp [List.count_eq_zero.2 (hmailbox box)],
    by simp [List.count_eq_zero.2 hrecorder]⟩

theorem Heard.trans (h : Heard hub mail ls w w') (h' : Heard hub mail ls' w' w'') :
    Heard hub mail (ls ++ ls') w w'' := by
  refine ⟨?_, h'.length.trans h.length, h'.present.trans h.present, fun box => ?_, ?_⟩
  · rw [h'.same, h.same]
  · rw [h'.content, h.content, h.present, List.append_assoc, List.replicate_append_replicate, List.count_append]
    split <;> rfl
  · rw [h'.log, h.log, List.append_assoc, List.replicate_append_replicate, List.count_append]

theorem hear_ne_closed (act : Act) (hs : w.scripts = []) (hub : Hub) (mail : Mail) (l : Listener) :
    (hear act hub mail l w).2 ≠ .closed := by
  cases l <;> simp [hear, callScript, hs]

theorem hearStanza_ne_closed {id : Nat} (halive : w.managerAlive id) (act : Act) (link : Nat)
    (stanza : Xml.Element) : (w.hearStanza act link stanza (.manager id)).2 ≠ .closed := by
  simp only [hearStanza, halive, if_true]
  split <;> simp

theorem heard_hear (act : Act) (hs : w.scripts = []) (hub : Hub) (mail : Mail) (l : Listener) :
    Heard hub mail [l] w (hear act hub mail l w).1 := by
  cases l with
  | recorder => exact ⟨rfl, rfl, rfl, fun box => by simp [hear, note, content], rfl⟩
  | mailbox id =>
    refine ⟨?_, ?_, present_deposit .., fun box => ?_, ?_⟩
    · rw [hear, deposit_eq]
    · rw [hear, deposit_eq]
      simp
    · rw [hear, content_deposit]
      by_cases hbox : box = id
      · subst hbox
        by_cases hp : w.present (.mailbox box) <;> simp [hp]
      · have hne : ¬ id = box := fun h => hbox h.symm
        simp [hbox, hne]
    · rw [hear, deposit_eq]
      simp
  | script id =>
    have hstays : hear act hub mail (.script id) w = (w, .ok) := by simp [hear, callScript, hs]
    rw [hstays]
    exact .nobody hub mail w (by simp) (by simp)
  | manager id => exact .nobody hub mail w (by simp) (by simp)

theorem Heard.scripts (h : Heard hub mail ls w w') : w'.scripts = w.scripts := by rw [h.same]

theorem heard_deliver (act : Act) (hs : w.scripts = []) (hub : Hub) (mail : Mail) (es : List (Nat × Listener)) :
    Heard hub mail (es.map Prod.snd) w (deliver (hear act hub mail) es w).1 ∧
      closedIds (deliver (hear act hub mail) es w).2 = [] := by
  induction es generalizing w with
  | nil => exact ⟨.nobody hub mail w (by simp) (by simp), rfl⟩
  | cons e es ih =>
    have hheard := heard_hear act hs hub mail e.2
    obtain ⟨hrest, hclosed⟩ := ih (hheard.scripts.trans hs)
    refine ⟨hheard.trans hrest, ?_⟩
    rw [closedIds] at hclosed ⊢
    simp only [deliver, List.filter_cons, hear_ne_closed act hs, decide_false, Bool.false_eq_true, if_false]
    exact hclosed

/-- An event for all listeners of a hub: those that are gone are dropped, and the others hear it. -/
theorem heard_tell (act : Act) (hs : w.scripts = []) (hub : Hub) (mail : Mail) :
    Heard hub mail ((w.registry hub).toList.filter w.present) (w.updateRegistry hub (Registry.prune w.present))
      (w.tell act hub mail) := by
  have hregistry : (w.updateRegistry hub (Registry.prune w.present)).registry hub =
      (w.registry hub).prune w.present := by
    rw [registry_updateRegistry rfl, if_pos rfl]
  have hscripts : (w.updateRegistry hub (Registry.prune w.present)).scripts = [] := by
    cases hub <;> exact hs
  obtain ⟨hheard, hclosed⟩ := heard_deliver act hscripts hub mail ((w.registry hub).prune w.present).entries
  rw [← Registry.toList_prune, Registry.toList]
  unfold tell emit
  simp only [hregistry, hclosed, updateRegistry_eq_self (Registry.retire_nil _)]
  exact hheard

theorem present_updateRegistry (hub : Hub) (change : Registry Listener → Registry Listener) (w : World) :
    (w.updateRegistry hub change).present = w.present := by
  cases hub <;> rfl

theorem content_updateRegistry (hub : Hub) (change : Registry Listener → Registry Listener) (w : World)
    (box : Nat) : (w.updateRegistry hub change).content box = w.content box := by
  cases hub <;> rfl

theorem present_tell (act : Act) (hs : w.scripts = []) (hub : Hub) (mail : Mail) :
    (w.tell act hub mail).present = w.present :=
  (heard_tell act hs hub mail).present.trans (present_updateRegistry ..)

theorem scripts_tell (act : Act) (hs : w.scripts = []) (hub : Hub) (mail : Mail) :
    (w.tell act hub mail).scripts = [] := by
  rw [(heard_tell act hs hub mail).scripts]
  cases hub <;> exact hs

theorem session?_tell (act : Act) (hs : w.scripts = []) (hub : Hub) (mail : Mail) (link : Nat) :
    (w.tell act hub mail).session? link = w.session? link := by
  have hsame : (w.tell act hub mail).session? link =
      (w.updateRegistry hub (Registry.prune w.present)).session? link := by
    rw [(heard_tell act hs hub mail).same]
    rfl
  rw [hsame, session?_updateRegistry]

/-- The listeners of a hub are the same after an event, those aside that are gone. -/
theorem registry_tell (act : Act) (hs : w.scripts = []) (hub other : Hub) (mail : Mail) :
    (w.tell act hub mail).registry other =
      if other = hub then (w.registry hub).prune w.present else w.registry other := by
  have hsame : (w.tell act hub mail).registry other =
      (w.updateRegistry hub (Registry.prune w.present)).registry other := by
    rw [(heard_tell act hs hub mail).same]
    cases other <;> rfl
  rw [hsame, registry_updateRegistry rfl]

/-- A mailbox that is open gets an event as often as it listens to the hub. -/
theorem content_tell (act : Act) (hs : w.scripts = []) (hub : Hub) (mail : Mail) (box : Nat) :
    (w.tell act hub mail).content box = w.content box ++
      List.replicate (if w.present (.mailbox box) then (w.registry hub).toList.count (.mailbox box) else 0) mail := by
  rw [(heard_tell act hs hub mail).content, content_updateRegistry, present_updateRegistry]
  split
  · next hpresent => rw [List.count_filter hpresent]
  · rfl

theorem log_tell (act : Act) (hs : w.scripts = []) (hub : Hub) (mail : Mail) : ∃ n,
    (w.tell act hub mail).log = w.log ++ List.replicate n (.heard hub mail) := by
  have hlog : (w.updateRegistry hub (Registry.prune w.present)).log = w.log := by
    cases hub <;> rfl
  exact ⟨_, hlog ▸ (heard_tell act hs hub mail).log⟩

theorem length_tell (act : Act) (hs : w.scripts = []) (hub : Hub) (mail : Mail) :
    (w.tell act hub mail).mailboxes.length = w.mailboxes.length := by
  have hlength : (w.updateRegistry hub (Registry.prune w.present)).mailboxes = w.mailboxes := by
    cases hub <;> rfl
  rw [(heard_tell act hs hub mail).length, hlength]

end World

end XmppBosh.Client
