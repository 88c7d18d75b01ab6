import XmppBosh.Proofs.Bosh.Reading

/-!
# What is posted is read back

What is known of the bodies of a run is known of the texts that are posted: who reads such a text finds the body that
was handed over, whatever the client has sent, and however often the request is repeated.

* `Body.Legible` : the names of the attributes can be read, and none comes twice; `read?_of_legible` : such a body is
  read back;
* `Session.Legible`, `Legible.step` : the pending body is legible, and so is what is handed over;
* `Traffic.read?_posted` : every request of a run is read back.
-/

namespace XmppBosh.Bosh

open Xml

namespace Body

/-- The names of the attributes can be read, and none comes twice. -/
structure Legible (b : Body) : Prop where
  named : ∀ name ∈ b.attributes.map Prod.fst, Named name
  nodup : (b.attributes.map Prod.fst).Nodup

variable {b : Body}

theorem Legible.set (h : b.Legible) {name : String} (hname : name ∈ attributeNames) (value : String) :
    (b.set name value).Legible := by
  have hnames : (b.set name value).attributes.map Prod.fst = _ := map_fst_assign name value b.attributes
  by_cases hmem : name ∈ b.attributes.map Prod.fst
  · rw [if_pos hmem] at hnames
    exact ⟨hnames ▸ h.named, hnames ▸ h.nodup⟩
  · rw [if_neg hmem] at hnames
    refine ⟨?_, ?_⟩
    · rw [hnames, List.forall_mem_append]
      exact ⟨h.named, List.forall_mem_singleton.2 (named_of_mem name hname)⟩
    · rw [hnames]
      exact List.concat_eq_append ▸ h.nodup.concat hmem

theorem Legible.restart (h : b.Legible) (host : String) : (b.restart host).Legible :=
  (((h.set (by decide) _).set (by decide) _).set (by decide) _).set (by decide) _

theorem legible_beginning (beginning : Beginning) : beginning.body.Legible := by
  refine ⟨fun name hname => ?_, attributes_beginning beginning ▸ nodup_assigned _⟩
  rw [attributes_beginning, map_fst_assigned, List.mem_eraseDups, List.mem_map] at hname
  obtain ⟨a, ha, rfl⟩ := hname
  exact named_of_mem a.1 (named_beginning beginning a ha)

theorem read?_of_legible (h : b.Legible) :
    read? b.text = some (b.attributes, String.join (b.stanzas.map Element.print)) :=
  read?_text fun a ha => h.named a.1 (List.mem_map_of_mem ha)

end Body

namespace Session

def Legible (s : Session) : Prop := ∀ body, s.pending = some body → body.Legible

variable {s : Session} {i : Input} {now : Nat}

namespace Legible

theorem draft (h : s.Legible) : s.draft.Legible := by
  unfold Session.draft
  split
  · next hp => exact h _ hp
  · next stream _ _ => exact Body.legible_beginning (.plain (some (stream.rid + 1)) stream.sid)
  · exact Body.legible_beginning (.plain none none)

theorem edited (h : s.Legible) (i : Input) : (s.edited i).Legible := by
  have hdraft := h.draft
  cases i with
  | send stanza => exact ⟨hdraft.named, hdraft.nodup⟩
  | restart => exact hdraft.restart _
  | pause =>
    unfold Session.edited
    cases s.maxPause? with
    | none => exact hdraft
    | some seconds => exact hdraft.set (by decide) _
  | _ => exact hdraft

theorem outgoing (h : s.Legible) (i : Input) : (s.outgoing i).Legible := by
  have hlast : (if s.discards i then s.cleared.draft.set "type" "terminate" else s.edited i).Legible := by
    split
    · exact Body.Legible.set (draft (s := s.cleared) nofun) (by decide) _
    · exact h.edited i
  cases i with
  | connect start =>
    rw [Session.outgoing]
    split
    · exact h.draft
    · cases s.settings with
      | none => exact h.draft
      | some settings => exact Body.legible_beginning (.creation settings (start + 1))
  | resume stream => exact draft (s := { s with stream := some stream }) h
  | _ => exact hlast

theorem step (h : s.Legible) (hs : s.settings.isSome) (now : Nat) (i : Input) : (s.step now i).session.Legible := by
  intro body hbody
  cases hb : s.begins i with
  | false =>
    rcases pending_step hs hb hbody with hbody | rfl
    · exact h body hbody
    · exact h.edited i
  | true =>
    cases i with
    | connect start =>
      obtain ⟨settings, -, hd⟩ := begun_drafted hb now
      have hcreation : (Body.sessionCreation settings (start + 1)).Legible :=
        Body.legible_beginning (.creation settings (start + 1))
      rcases hd.pending_cases hbody with hpending | rfl
      · exact Option.some.inj hpending ▸ hcreation
      · exact hcreation
    | resume stream =>
      have hd := (Drafted.keepOpen now { s with active := true, stream := some stream }).startHeartbeat
      rcases hd.pending_cases hbody with hbody | rfl
      · exact h body hbody
      · exact draft (s := { s with active := true, stream := some stream }) h
    | _ => cases hb

end Legible

end Session

namespace Traffic

variable {gs : List Stage} {s : Session}

/-- What holds all along in a run with settings. -/
structure Posts (gs : List Stage) (s : Session) : Prop where
  settings : s.settings.isSome
  legible : s.Legible
  hasSettings : ∀ g ∈ gs, g.before.settings.isSome
  bodies : ∀ b ∈ gs.flatMap Stage.bodies, b.Legible

theorem Posts.step (h : Posts gs s) (now : Nat) (i : Input) :
    Posts (gs ++ [⟨s, now, i⟩]) (s.step now i).session where
  settings := (Session.step_retains now i s).settings h.settings
  legible := h.legible.step h.settings now i
  hasSettings := by
    rw [List.forall_mem_append]
    exact ⟨h.hasSettings, List.forall_mem_singleton.2 h.settings⟩
  bodies := by
    rw [List.flatMap_append, List.forall_mem_append, List.flatMap_singleton]
    refine ⟨h.bodies, fun b hb => ?_⟩
    unfold Stage.bodies at hb
    split at hb
    · cases hb
    · obtain ⟨_, -, rfl⟩ := List.mem_map.1 hb
      exact h.legible.outgoing i

theorem Posts.run (st : Settings) (timings : Timings) (ms : List (Nat × Move)) :
    Posts (stages ms (start (some st) timings)) ((start (some st) timings).run ms).session := by
  have hstart : Posts [] (start (some st) timings).session :=
    ⟨rfl, by simp [Session.Legible, start], by simp, by simp⟩
  exact history_induction (P := Posts) (K := fun _ => True) (fun _ _ now i h _ => h.step now i) (fun _ _ => trivial)
    hstart

theorem mem_handedOver_of_mem_requests (st : Settings) (timings : Timings) (ms : List (Nat × Move)) {r : Request}
    (hr : r ∈ requests (stages ms (start (some st) timings))) :
    r.text ∈ handedOver false (stages ms (start (some st) timings)) := by
  have hkept := (Kept.start st timings).run ms
  generalize stages ms (start (some st) timings) = gs at hr hkept ⊢
  obtain ⟨-, htexts, hrepeated⟩ := foldl_take gs {}
  obtain ⟨g, hg, hr⟩ := List.mem_flatMap.1 hr
  have hmem : r.text ∈ handedOver g.input.isRetry gs :=
    List.mem_flatMap.2 ⟨g, List.mem_filter.2 ⟨hg, beq_self_eq_true _⟩, List.mem_map_of_mem hr⟩
  cases hretry : g.input.isRetry with
  | false => rwa [hretry] at hmem
  | true =>
    rw [hretry] at hmem
    have hknown := hkept.tidy.repeated r.text (hrepeated ▸ hmem)
    rwa [htexts] at hknown

/-- **Whatever is posted is read back.** Every request of a run, a repetition or not, is the text of a body that was
handed over in it, and who reads it finds the attributes of that body, each name once, and then its stanzas. -/
theorem read?_posted (st : Settings) (timings : Timings) (ms : List (Nat × Move)) :
    let gs := stages ms (start (some st) timings)
    ∀ r ∈ requests gs, ∃ b ∈ gs.flatMap Stage.bodies, r.text = b.text ∧ (b.attributes.map Prod.fst).Nodup ∧
      Body.read? r.text = some (b.attributes, String.join (b.stanzas.map Element.print)) := by
  intro gs r hr
  have hposts := Posts.run st timings ms
  have hnew := mem_handedOver_of_mem_requests st timings ms hr
  rw [handedOver_eq hposts.hasSettings] at hnew
  obtain ⟨b, hb, htext⟩ := List.mem_map.1 hnew
  have hlegible := hposts.bodies b hb
  exact ⟨b, hb, htext.symm, hlegible.nodup, htext ▸ Body.read?_of_legible hlegible⟩

end Traffic

end XmppBosh.Bosh
