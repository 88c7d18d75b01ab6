import XmppBosh.Proofs.Client.Hearing
import XmppBosh.Proofs.Listeners.Delivery

/-!
# Who is told of an event

* `World.calling` : handlers behave in whatever way, and mailboxes get the mail; `tell_eq_emit`,
  `deliverStanza_eq_emit` : so it is with every event of a program;
* `told_once` : every handler that is registered and every mailbox that is open is told once, and all of them stay
  but the handlers that say that they are through.
-/

namespace XmppBosh.Client

namespace World

variable {w : World} {hub : Hub} {mail : Mail} {behaviour : Mail → Listener → World → World × Verdict}

theorem within_hub (hub : Hub) : Registry.Within (registry hub) (updateRegistry hub) where
  prune := fun present w => by rw [registry_updateRegistry rfl, if_pos rfl]
  retire := fun ids w => by rw [registry_updateRegistry rfl, if_pos rfl]

/-- Handlers behave in whatever way when they are told, and mailboxes get the mail. -/
def calling (behaviour : Mail → Listener → World → World × Verdict) (mail : Mail) :
    Listener → World → World × Verdict
  | .mailbox box, w => (w.deposit box mail, .ok)
  | l, w => behaviour mail l w

theorem tell_eq_emit (act : Act) (hub : Hub) (mail : Mail) (w : World) : w.tell act hub mail =
    (emit (registry hub) (updateRegistry hub) present (calling (hear act hub) mail) w).1 := by
  have hcalling : hear act hub mail = calling (hear act hub) mail := by
    funext l w
    cases l <;> rfl
  rw [tell, hcalling]

theorem deliverStanza_eq_emit (act : Act) (link : Nat) (e : Xml.Element) (w : World) : w.deliverStanza act link e =
    emit (registry (.link link .received)) (updateRegistry (.link link .received)) present
      (calling (fun _ => hearStanza act link e) (.stanza e)) w := by
  have hcalling : hearStanza act link e = calling (fun _ => hearStanza act link e) (.stanza e) := by
    funext l w
    cases l <;> rfl
  rw [deliverStanza, ← hcalling]

/-- **Everybody is told once.** An event comes to the handlers that are registered and the mailboxes that are open,
in the order in which they have registered, whatever they say. Afterwards those of them are registered who have not
said that they are through, in the same order, and after them those whom handlers have registered meanwhile. -/
theorem told_once (hn : (w.registry hub).Numbered)
    (hr : Registering (registry hub) (calling behaviour mail) ((w.registry hub).prune w.present).entries
      (w.updateRegistry hub (Registry.prune w.present))) :
    ∃ vs t, Visits (registry hub) (calling behaviour mail) (w.updateRegistry hub (Registry.prune w.present)) vs t ∧
      vs.map Visit.entry = (w.registry hub).entries.filter (fun e => w.present e.2) ∧
      (∀ v ∈ vs, ∀ box, v.listener = .mailbox box →
        v.verdict = .ok ∧ v.after = v.before.deposit box mail ∧
          (v.before.present (.mailbox box) → v.after.content box = v.before.content box ++ [mail])) ∧
      emit (registry hub) (updateRegistry hub) present (calling behaviour mail) w =
        (t.updateRegistry hub (Registry.retire ((vs.filter fun v => v.verdict = .closed).map Visit.number)),
          vs.map Visit.verdict) ∧
      (emit (registry hub) (updateRegistry hub) present (calling behaviour mail) w).1.registry hub =
        { entries := (vs.filter fun v => v.verdict ≠ .closed).map Visit.entry ++
            Registry.numbered (w.registry hub).next (vs.flatMap Visit.registered)
          next := (w.registry hub).next + (vs.flatMap Visit.registered).length } := by
  obtain ⟨vs, t, hvs, hentries, hresult, hregistry⟩ := emit_visits (within_hub hub) hn hr
  refine ⟨vs, t, hvs, hentries, fun v hv box hbox => ?_, hresult, hregistry⟩
  have hcalled := hvs.called hv
  rw [hbox, calling, Prod.mk.injEq] at hcalled
  obtain ⟨hafter, hverdict⟩ := hcalled
  refine ⟨hverdict.symm, hafter.symm, fun hpresent => ?_⟩
  rw [← hafter, content_deposit, if_pos ⟨rfl, hpresent⟩]

/-- A program with an authentication, and with those who wait for its results: a recorder, a handler that registers
another one and a mailbox and is through then, a mailbox that is open and one that is closed, and a handler that
fails. -/
def crowded : World :=
  let w := (({ starts := fun _ => 0, nonce := "" } : World).newBareLink).adoptManager 0
  [.onResult "a" [.onResult "c" [] 1 .ok, .subscribeResults "n"] 1 .closed, .subscribeResults "m",
    .subscribeResults "k", .unsubscribeResults "k", .onResult "b" [] 1 (.failed "no")].foldl (fun w c => (w.ask c).1) w

theorem told_once_crowded : ∃ vs t,
    Visits (registry (.results 0)) (calling (hear crowded.act (.results 0)) (.result (.failed none)))
      (crowded.updateRegistry (.results 0) (Registry.prune crowded.present)) vs t ∧
      vs.map Visit.entry = [(0, .recorder), (1, .script 0), (2, .mailbox 0), (4, .script 1)] ∧
      vs.map Visit.verdict = [.ok, .closed, .ok, .failed "no"] ∧
      ((crowded.tell crowded.act (.results 0) (.result (.failed none))).registry (.results 0)).entries =
        [(0, .recorder), (2, .mailbox 0), (4, .script 1), (5, .script 2), (6, .mailbox 2)] := by
  have hn : (crowded.registry (.results 0)).Numbered := ⟨by decide +kernel, by decide +kernel⟩
  have hr : Registering (registry (.results 0)) (calling (hear crowded.act (.results 0)) (.result (.failed none)))
      ((crowded.registry (.results 0)).prune crowded.present).entries
      (crowded.updateRegistry (.results 0) (Registry.prune crowded.present)) :=
    ⟨⟨[], rfl⟩, ⟨[.script 2, .mailbox 2], rfl⟩, ⟨[], rfl⟩, ⟨[], rfl⟩, trivial⟩
  obtain ⟨vs, t, hvs, hentries, -, hresult, -⟩ := told_once hn hr
  rw [tell_eq_emit]
  have hverdicts := congrArg Prod.snd hresult
  exact ⟨vs, t, hvs, hentries.trans (by decide +kernel), hverdicts.symm.trans (by decide +kernel),
    by decide +kernel⟩

end World

end XmppBosh.Client
