import XmppBosh.Client.Schedule
import XmppBosh.Proofs.Bosh.Outcome
import XmppBosh.Proofs.Listeners.Registries

/-!
# What the parts of a step change

* `Mailbox.take`, `deposit_eq` : a piece of mail changes a mailbox and what is ready to run;
* `doEffects_eq` : what a session asks for changes the exchanges, the log and what is ready to run.
-/

namespace XmppBosh.Client

def Mailbox.take (mail : Mail) (b : Mailbox) : Mailbox :=
  if b.isOpen then { b with content := b.content ++ [mail], waiter := none } else b

@[simp] theorem Mailbox.isOpen_take (mail : Mail) (b : Mailbox) : (b.take mail).isOpen = b.isOpen := by
  unfold take
  split <;> rfl

namespace World

variable {w : World} {box id : Nat} {mail : Mail}

/-! ## Mail -/

theorem wake_eq (t : Task) (w : World) : w.wake t = { w with queue := (w.wake t).queue } := by
  unfold wake
  split <;> rfl

theorem deposit_eq (box : Nat) (mail : Mail) (w : World) : w.deposit box mail =
    { w with mailboxes := w.mailboxes.modify box (Mailbox.take mail), queue := (w.deposit box mail).queue } := by
  unfold deposit
  cases hbox : w.mailboxes[box]? with
  | none => simp [List.modify_eq_self (List.getElem?_eq_none_iff.1 hbox)]
  | some b =>
    have hmodify : ∀ f : Mailbox → Mailbox, f b = b.take mail →
        w.mailboxes.modify box f = w.mailboxes.modify box (Mailbox.take mail) := by
      intro f hf
      apply List.ext_getElem?
      intro i
      by_cases hi : box = i
      · subst hi
        simp [hbox, hf]
      · simp [hi]
    by_cases hopen : b.isOpen
    · simp only [hopen, if_true, modifyMailbox]
      rw [hmodify _ (by simp [Mailbox.take, hopen])]
      cases b.waiter with
      | none => rfl
      | some t => exact wake_eq t _
    · rw [← hmodify id (by simp [Mailbox.take, hopen])]
      simp [hopen]

theorem present_deposit (box : Nat) (mail : Mail) (w : World) : (w.deposit box mail).present = w.present := by
  rw [deposit_eq]
  funext l
  cases l with
  | mailbox id => by_cases h : box = id <;> simp [present, h, Option.any_map]
  | _ => rfl

theorem content_deposit (box : Nat) (mail : Mail) (w : World) (id : Nat) :
    (w.deposit box mail).content id =
      if id = box ∧ w.present (.mailbox box) then w.content id ++ [mail] else w.content id := by
  rw [deposit_eq]
  by_cases h : id = box
  · subst h
    cases hbox : w.mailboxes[id]? with
    | none => simp [content, present, hbox]
    | some b => by_cases hopen : b.isOpen <;> simp [content, present, hbox, Mailbox.take, hopen]
  · have hne : ¬ box = id := fun heq => h heq.symm
    simp [content, h, hne]

/-! ## Listeners -/

theorem updateRegistry_eq_self {hub : Hub} {change : Registry Listener → Registry Listener}
    (h : change (w.registry hub) = w.registry hub) : w.updateRegistry hub change = w := by
  cases hub with
  | link id topic =>
    have hlinks : w.links.modify id (Link.update topic change) = w.links := by
      apply List.ext_getElem?
      intro i
      by_cases hi : id = i
      · subst hi
        cases hl : w.links[id]? with
        | none => simp [hl]
        | some l =>
          have hsame : Link.update topic change l = l := by
            simp only [registry, hl, Option.map_some, Option.getD_some] at h
            cases topic <;> simp only [Link.registry] at h <;> simp only [Link.update, h]
          simp [hl, hsame]
      · simp [hi]
    simp only [updateRegistry, modifyLink, hlinks]
  | results id =>
    have hmanagers : w.managers.modify id (fun m => { m with results := change m.results }) = w.managers := by
      apply List.ext_getElem?
      intro i
      by_cases hi : id = i
      · subst hi
        cases hm : w.managers[id]? with
        | none => simp [hm]
        | some m =>
          simp only [registry, hm, Option.map_some, Option.getD_some] at h
          simp [hm, h]
      · simp [hi]
    simp only [updateRegistry, modifyManager, hmanagers]

/-! ## Effects -/

/-- What shows of some requests, the first of which has this number. -/
def posted (first : Nat) (requests : List Bosh.Request) : List Event :=
  (requests.zipIdx first).map fun r => .request r.2 r.1

theorem doEffects_eq (link : Nat) (o : Bosh.Outcome) (w : World) : ∃ queue,
    o.effects.foldl (doEffect link) w = { w with
      exchanges := w.exchanges ++ o.posts.map fun r => { link, text := r.text }
      queue
      log := w.log ++ posted w.exchanges.length o.posts } := by
  obtain ⟨s, effects, notices⟩ := o
  simp only [Bosh.Outcome.posts]
  induction effects generalizing w with
  | nil => exact ⟨w.queue, by simp [posted]⟩
  | cons effect effects ih =>
    obtain ⟨queue, heq⟩ := ih (w.doEffect link effect)
    rw [List.foldl_cons, heq]
    cases effect with
    | post request => exact ⟨queue, by simp [doEffect, note, spawn, posted]⟩
    | arm delay alarm => exact ⟨queue, by simp [doEffect, spawn]⟩

end World

end Client

end XmppBosh
