import XmppBosh.Proofs.Bosh.Drafts
import XmppBosh.Proofs.Bosh.Quiet

/-!
# How often a session takes its leave

A session ends when the client ends it, when the server does not know it any more, when there have been too
many errors, or when the server says so. In all cases but the last it takes its leave with a last body. A
client may ask for the end of a session that has ended already, and it takes its leave once more.

* `Body.isFarewell` : a last body;
* `Session.isDismissed` : a body is opened that ends the session; `active_step` : a session goes on until it
  is dismissed or discards what is pending, which it does to take its leave;
* `Traffic.farewells` : the last bodies that are handed over in a history; `length_farewells` : as many as
  there are leaves;
* `Parted`, `parted_run` : what holds of every session from its beginning to the next;
* `farewells_le_one_iff` : it takes its leave once at most, and not after it has been dismissed, exactly if
  the client never asks for an end when it has ended.
-/

namespace XmppBosh.Bosh

/-- Whether a body is the last of its session. -/
def Body.isFarewell (b : Body) : Bool := b.attr? "type" = some "terminate"

namespace Session

variable {s : Session} {i : Input} {now : Nat}

/-! ## Ends -/

def isDismissed (i : Input) (s : Session) : Bool :=
  match i with
  | .openBody body => s.active && isTerminal body
  | _ => false

theorem active_of_frame {t : Session} (hd : s.discards i = false) (hi : s.isDismissed i = false)
    (h : Frame s t) : t.active = (s.active && !s.discards i && !s.isDismissed i) := by
  simp [hd, hi, h.active]

/-- **A session goes on** until it takes its leave or is dismissed. -/
theorem active_step (hb : s.begins i = false) (now : Nat) :
    (s.step now i).session.active = (s.active && !s.discards i && !s.isDismissed i) := by
  cases i with
  | connect start =>
    have hc := started now start s
    simp only [step, discards, hb, isDismissed]
    generalize s.connect now start = o at hc ⊢
    cases hc with
    | refused | renewed => simp [renewed]
    | begun settings hs ha => simp [begins, hs, ha] at hb
  | disconnect => simp [step, discards]
  | resume stream => cases hb
  | send stanza => exact active_of_frame rfl rfl ((edit_frame _ s).trans (flush_frame now _))
  | flush => exact active_of_frame rfl rfl (flush_frame now s)
  | restart => exact active_of_frame rfl rfl (edit_frame _ s)
  | pause => exact active_of_frame rfl rfl (pause_frame now s)
  | setSettings settings | setTimings timings => simp [step, discards, isDismissed]
  | answer request r =>
    have ha := answered now request r s
    simp only [step]
    generalize s.answer now request r = o at ha ⊢
    cases ha with
    | ignored ha => simp [ha]
    | accepted ha body hr => simp [discards, isDismissed, accept, ha, hr]
    | repeated ha reason hr hx => simp [discards, isDismissed, failed, ha, hr, hx]
    | gone ha content hr => simp [discards, ha, hr]
    | exhausted ha reason hr hx => simp [discards, ha, hr, hx]
  | openBody body =>
    have ho := opened body s
    simp only [step]
    generalize s.openBody body = o at ho ⊢
    cases ho with
    | ignored ha => simp [ha]
    | terminal ha ht => simp [isDismissed, ha, ht]
    | establish ha ht | further ha ht => simp [discards, isDismissed, ha, ht]
  | closeBody =>
    have h := (keepOpen_frame now { s with dispatching := s.dispatching - 1 }).active
    simpa [step, closeBody, discards, isDismissed] using h
  | fire alarm => exact active_of_frame rfl rfl (fire_frame now alarm s)

theorem disconnect_of_discards (hb : s.begins i = false) (hd : s.discards i) (ha : s.active = false) :
    i = .disconnect := by
  cases i with
  | connect start => simp [discards, hb] at hd
  | disconnect => rfl
  | answer request r => simp [discards, ha] at hd
  | _ => cases hd

theorem posts_retry_of_inactive (hi : i.isRetry) (ha : s.active = false) (now : Nat) :
    (s.step now i).posts = [] := by
  obtain ⟨request, sid, rfl⟩ := Input.exists_of_isRetry hi
  simp [step, fire, ha]

end Session

namespace Traffic

open Session

variable {gs : List Stage} {g : Stage} {t : Traffic} {i : Input} {s : Session} {now : Nat}

/-! ## Leaves -/

def Stage.leaves (g : Stage) : Bool := g.before.discards g.input

def Stage.dismissed (g : Stage) : Bool := g.before.isDismissed g.input

/-- Whether a session ends, or would if it had not ended already. -/
def Stage.ends (g : Stage) : Bool := g.leaves || g.dismissed

def farewells (gs : List Stage) : List Body := (gs.flatMap Stage.bodies).filter Body.isFarewell

/-- A step hands over a last body to take its leave, and else none. -/
theorem length_farewells_step (hs : s.settings.isSome) (hst : s.stream.isSome) (hu : s.Lacks "type")
    (hb : s.begins i = false) (now : Nat) :
    (farewells [⟨s, now, i⟩]).length = (s.discards i).toNat := by
  cases hd : s.discards i with
  | true =>
    have hout : (s.outgoing i).isFarewell := by
      cases i with
      | connect start => simp [discards, hb] at hd
      | disconnect => simp [outgoing, discards, Body.isFarewell]
      | answer request r => simp [outgoing, hd, Body.isFarewell]
      | _ => cases hd
    have hone := length_posts_of_discards hs hst hb hd now
    simpa [farewells, Stage.bodies, isRetry_of_discards hd, Stage.outcome, List.filter_map, Function.comp_def, hout]
      using hone
  | false =>
    have hout : (s.outgoing i).isFarewell = false := by
      simp [outgoing_of_not_discards hb hd, Body.isFarewell,
        hu.edited (by decide) (by decide) (.inr (by decide))]
    have hnone : ∀ b ∈ (Stage.mk s now i).bodies, b.isFarewell = false := by
      intro b hmem
      unfold Stage.bodies at hmem
      split at hmem
      · cases hmem
      · obtain ⟨-, -, rfl⟩ := List.mem_map.1 hmem
        exact hout
    simpa [farewells] using hnone

/-- **There are as many last bodies** as leaves. -/
theorem length_farewells (h : ∀ g ∈ gs, (farewells [g]).length = g.leaves.toNat) :
    (farewells gs).length = gs.countP Stage.leaves := by
  induction gs with
  | nil => rfl
  | cons g gs ih =>
    obtain ⟨hg, hgs⟩ := List.forall_mem_cons.1 h
    have hsplit : farewells (g :: gs) = farewells [g] ++ farewells gs := by simp [farewells]
    rw [hsplit, List.length_append, hg, ih hgs, List.countP_cons, Nat.add_comm]
    cases g.leaves <;> rfl

/-- What holds of a session from its beginning to the next. -/
structure Parted (gs : List Stage) (s : Session) : Prop where
  settings : s.settings.isSome
  stream : s.stream.isSome
  /-- The pending body says nothing about an end. -/
  untyped : s.Lacks "type"
  active : s.active = !gs.any Stage.ends
  /-- A session is active until it takes its leave or is dismissed. -/
  before : ∀ before g after, gs = before ++ g :: after → g.before.active = !before.any Stage.ends
  hasSettings : ∀ g ∈ gs, g.before.settings.isSome
  counted : ∀ g ∈ gs, (farewells [g]).length = g.leaves.toNat
  asked : ∀ g ∈ gs, g.leaves → g.before.active = false → g.input = .disconnect

/-- **A step that begins no session** keeps to this. -/
theorem Parted.step (h : Parted gs s) (hb : s.begins i = false) (now : Nat) :
    Parted (gs ++ [⟨s, now, i⟩]) (s.step now i).session where
  settings := (step_retains now i s).settings h.settings
  stream := (step_retains now i s).stream h.stream
  untyped := h.untyped.step h.settings hb
    (h.untyped.edited (by decide) (by decide) (.inr (by decide))) now
  active := by
    rw [active_step hb, h.active, List.any_append]
    simp [Stage.ends, Stage.leaves, Stage.dismissed, Bool.and_assoc]
  before := forall_split_concat (P := fun before g => g.before.active = !before.any Stage.ends)
    ⟨s, now, i⟩ h.before h.active
  hasSettings := by
    rw [List.forall_mem_append, List.forall_mem_singleton]
    exact ⟨h.hasSettings, h.settings⟩
  counted := by
    rw [List.forall_mem_append, List.forall_mem_singleton]
    exact ⟨h.counted, length_farewells_step h.settings h.stream h.untyped hb now⟩
  asked := by
    rw [List.forall_mem_append, List.forall_mem_singleton]
    exact ⟨h.asked, disconnect_of_discards hb⟩

theorem Parted.inactive {before after : List Stage} (h : Parted gs s) (heq : gs = before ++ g :: after)
    (hends : g.ends) : ∀ x ∈ after, x.before.active = false := by
  intro x hx
  obtain ⟨mid, rest, rfl⟩ := List.append_of_mem hx
  have hsplit : gs = (before ++ g :: mid) ++ x :: rest := by simp [heq]
  simp [h.before _ _ _ hsplit, hends]

/-- **Every session** that was asked for comes to this before the next begins. -/
theorem parted_run {first : Nat} {later : List (Nat × Move)} (hb : t.session.begins (.connect first))
    (hu : ∀ g ∈ stages later (t.step now (.call (.connect first))), g.before.begins g.input = false) :
    Parted (stages later (t.step now (.call (.connect first))))
      ((t.step now (.call (.connect first))).run later).session := by
  rw [← List.nil_append (stages later _)]
  refine history_induction (P := Parted) (K := fun g => g.before.begins g.input = false)
    (fun gs s now i h hk => h.step hk now) hu ?_
  rw [step_some (i := .connect first) rfl, session_act]
  have hsettings : t.session.settings.isSome := (Bool.and_eq_true_iff.1 hb).1
  exact ⟨(step_retains now _ _).settings hsettings, stream_isSome_of_begins hb now,
    lacks_connect hb (by simp [Body.sessionCreation, Body.attr?_set?_ne]) now,
    active_of_begins hb now, by simp, by simp, by simp, by simp⟩

/-! ## One leave at most -/

/-- What rules out all that comes later happens once at most. -/
theorem countP_le_one {p : Stage → Bool}
    (h : ∀ before g after, gs = before ++ g :: after → p g → ∀ x ∈ after, p x = false) :
    gs.countP p ≤ 1 := by
  induction gs with
  | nil => exact Nat.zero_le 1
  | cons g gs ih =>
    rw [List.countP_cons]
    by_cases hg : p g
    · have hzero : gs.countP p = 0 :=
        List.countP_eq_zero.2 fun x hx => by simp [h [] g gs rfl hg x hx]
      simp [hg, hzero]
    · have hle := ih fun before x after heq => h (g :: before) x after (by rw [heq, List.cons_append])
      simpa [hg] using hle

/-- **How often a session takes its leave.** From its beginning to the next, whatever happens in whatever
order, a session that was asked for hands over a last body each time that the client asks for its end, that
the server does not know it, or that there have been too many errors. Once it has ended, nothing is
repeated. So it takes its leave once at most, and not after the server has ended it, exactly if the client
never asks for the end of a session that has ended. -/
theorem farewells_le_one_iff (settings : Option Settings) (timings : Timings) (ms : List (Nat × Move))
    (now first : Nat) (later : List (Nat × Move))
    (hb : ((start settings timings).run ms).session.begins (.connect first))
    (hu : ∀ g ∈ stages later (((start settings timings).run ms).step now (.call (.connect first))),
      g.before.begins g.input = false) :
    let gs := stages later (((start settings timings).run ms).step now (.call (.connect first)))
    handedOver false gs = (gs.flatMap Stage.bodies).map Body.text ∧
      (farewells gs).length = gs.countP Stage.leaves ∧
      (∀ before g after, gs = before ++ g :: after → g.ends →
        ∀ x ∈ after, x.input.isRetry → x.outcome.posts = []) ∧
      (((farewells gs).length ≤ 1 ∧
          ∀ before g after, gs = before ++ g :: after → g.dismissed → farewells after = []) ↔
        ∀ g ∈ gs, g.input = .disconnect → g.before.active) := by
  intro gs
  have h : Parted gs _ := parted_run hb hu
  have hcount : ∀ xs : List Stage, (∀ x ∈ xs, x ∈ gs) → (farewells xs).length = xs.countP Stage.leaves :=
    fun xs hxs => length_farewells fun x hx => h.counted x (hxs x hx)
  refine ⟨handedOver_eq h.hasSettings, hcount gs fun _ hx => hx, ?_, ?_, ?_⟩
  · intro before g after heq hends x hx hretry
    exact posts_retry_of_inactive hretry (h.inactive heq hends x hx) x.now
  · rintro ⟨hone, hnone⟩ g hg hdisconnect
    rw [← Bool.not_eq_false]
    intro hinactive
    have hleaves : g.leaves := by
      rw [Stage.leaves, hdisconnect]
      rfl
    -- Something ended the session before: it took its leave then, or it was dismissed.
    obtain ⟨before, after, heq⟩ := List.append_of_mem hg
    have hany : before.any Stage.ends := by
      rw [h.before before g after heq, Bool.not_eq_false'] at hinactive
      exact hinactive
    obtain ⟨x, hx, hends⟩ := List.any_eq_true.1 hany
    obtain ⟨before, mid, rfl⟩ := List.append_of_mem hx
    rcases Bool.or_eq_true_iff.1 hends with hx | hx
    · rw [hcount gs fun _ hx => hx, heq] at hone
      simp [hx, hleaves] at hone
      omega
    · have hsplit : gs = before ++ x :: (mid ++ g :: after) := by simp [heq]
      have hlength := hcount (mid ++ g :: after) fun y hy =>
        hsplit ▸ List.mem_append_right _ (List.mem_cons_of_mem _ hy)
      rw [hnone before x _ hsplit hx] at hlength
      simp [hleaves] at hlength
  · intro hasked
    have hlast : ∀ before g after, gs = before ++ g :: after → g.ends →
        ∀ x ∈ after, x.leaves = false := by
      intro before g after heq hends x hx
      rw [← Bool.not_eq_true]
      intro hleaves
      have hmem : x ∈ gs := by simp [heq, hx]
      have hinactive := h.inactive heq hends x hx
      have hactive := hasked x hmem (h.asked x hmem hleaves hinactive)
      simp [hinactive] at hactive
    constructor
    · rw [hcount gs fun _ hx => hx]
      exact countP_le_one fun before g after heq hg => hlast before g after heq (by simp [Stage.ends, hg])
    · intro before g after heq hg
      rw [← List.length_eq_zero_iff, hcount after fun x hx => by simp [heq, hx], List.countP_eq_zero]
      intro x hx
      simp [hlast before g after heq (by simp [Stage.ends, hg]) x hx]

/-- The client asks twice for the end of an established session. The second last body does not even name the
session. -/
theorem farewells_of_two_disconnects :
    let settings : Settings := { httpBase := "http://localhost/", hostName := "localhost" }
    let content := "<body xmlns='http://jabber.org/protocol/httpbind' sid='s'/>"
    let later : List (Nat × Move) := [(0, .reply 0 (.response 200 content)), (0, .openBody 0),
      (0, .closeBody 0), (0, .call .disconnect), (0, .call .disconnect)]
    let t := (start (some settings) {}).run []
    let gs := stages later (t.step 0 (.call (.connect 0)))
    t.session.begins (.connect 0) ∧ (∀ g ∈ gs, g.before.begins g.input = false) ∧
      (farewells gs).map (Body.attr? "sid") = [some "s", none] ∧
      ¬ ∀ g ∈ gs, g.input = .disconnect → g.before.active := by
  intro settings content later t gs
  have hrun : t.session.begins (.connect 0) ∧ (∀ g ∈ gs, g.before.begins g.input = false) ∧
      (farewells gs).map (Body.attr? "sid") = [some "s", none] := by decide +kernel
  obtain ⟨hb, hu, hsids⟩ := hrun
  obtain ⟨-, -, -, hiff⟩ := farewells_le_one_iff (some settings) {} [] 0 0 later hb hu
  refine ⟨hb, hu, hsids, fun hasked => ?_⟩
  have hlength := congrArg List.length hsids
  have hone : (farewells gs).length ≤ 1 := (hiff.2 hasked).1
  simp at hlength
  omega

end Traffic

end XmppBosh.Bosh
