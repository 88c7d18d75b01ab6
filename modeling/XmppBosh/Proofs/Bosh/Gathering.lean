import Mathlib.Data.List.Induction
import XmppBosh.Proofs.Bosh.Drafts

/-!
# Stanzas that gather while a body is handed out

While a body is handed out nothing goes out. What is sent meanwhile gathers in the pending body, and it goes out
together when the body has been handed out.

* `Session.gather` : the session after some stanzas that wait; `pending_gather` : they are all in one body;
* `Session.IsHandingOut`, `flush_of_isHandingOut` : nothing goes out while a body is handed out;
* `Session.mayClose`, `closeBody_of_pending` : what is pending goes out at the end just if nothing is unanswered or
  being repeated, and requests may go out at all.
-/

namespace XmppBosh.Bosh

open Xml

namespace Session

variable {s : Session} {body : Element} {b : Body}

/-! ## Gathering -/

def gather (stanzas : List Element) (s : Session) : Session := stanzas.foldl (fun s e => s.edit (Body.push e)) s

theorem gather_concat (stanzas : List Element) (e : Element) (s : Session) :
    s.gather (stanzas ++ [e]) = (s.gather stanzas).edit (Body.push e) := List.foldl_concat ..

theorem gather_frame (stanzas : List Element) (s : Session) : Frame s (s.gather stanzas) := by
  induction stanzas using List.reverseRecOn with
  | nil => exact .refl s
  | append_singleton stanzas e ih =>
    rw [gather_concat]
    exact ih.trans (edit_frame _ _)

/-- The stanzas are added to the pending body, or to the one that is begun with the first of them. -/
theorem draft_gather (stanzas : List Element) (s : Session) :
    (s.gather stanzas).draft = stanzas.foldl (fun b e => b.push e) s.draft := by
  induction stanzas using List.reverseRecOn with
  | nil => rfl
  | append_singleton stanzas e ih =>
    rw [gather_concat, draft_of_pending (pending_edit _ _), ih, List.foldl_concat]

/-- **The stanzas are all in one body.** -/
theorem pending_gather (stanzas : List Element) (s : Session) : (s.gather stanzas).pending =
    if stanzas = [] then s.pending else some (stanzas.foldl (fun b e => b.push e) s.draft) := by
  induction stanzas using List.reverseRecOn with
  | nil => rfl
  | append_singleton stanzas e _ =>
    rw [if_neg (by simp), gather_concat, pending_edit, draft_gather, List.foldl_concat]

theorem stanzas_foldl_push (stanzas : List Element) (b : Body) :
    (stanzas.foldl (fun b e => b.push e) b).stanzas = b.stanzas ++ stanzas := by
  induction stanzas using List.reverseRecOn with
  | nil => exact (List.append_nil _).symm
  | append_singleton stanzas e ih => rw [List.foldl_concat, Body.stanzas_push, ih, List.append_assoc]

/-! ## While a body is handed out -/

def IsHandingOut (s : Session) : Prop := 0 < s.dispatching

theorem maySend_of_isHandingOut (h : s.IsHandingOut) : s.maySend = false := by
  have hne : s.dispatching ≠ 0 := Nat.ne_of_gt h
  simp [maySend, hne]

theorem flush_of_isHandingOut (h : s.IsHandingOut) (now : Nat) : s.flush now = ⟨s, [], []⟩ := by
  rw [flush, maySend_of_isHandingOut h]
  rfl

theorem send_of_isHandingOut (h : s.IsHandingOut) (now : Nat) (e : Element) :
    s.send now e = ⟨s.edit (Body.push e), [], []⟩ := by
  have hedit : (s.edit (Body.push e)).IsHandingOut := by
    rw [IsHandingOut, (edit_frame _ s).dispatching]
    exact h
  exact flush_of_isHandingOut hedit now

/-- Opening a body announces the session at most, and then the body is handed out. -/
theorem openBody_of_not_terminal (ha : s.active) (ht : isTerminal body = false) :
    (s.openBody body).effects = [] ∧ (s.openBody body).session.dispatching = s.dispatching + 1 ∧
      (s.openBody body).session.active ∧ (s.openBody body).session.pending = s.pending ∧
      (s.openBody body).session.stream.isSome = s.stream.isSome := by
  have ho := opened body s
  generalize s.openBody body = o at ho ⊢
  cases ho with
  | ignored hinactive => simp [ha] at hinactive
  | terminal _ hterminal => simp [ht] at hterminal
  | establish _ _ stream hstream => exact ⟨rfl, rfl, ha, rfl, by rw [hstream]; rfl⟩
  | further => exact ⟨rfl, rfl, ha, rfl, rfl⟩

/-! ## At the end -/

/-- Whether what is pending goes out when a body has been handed out. -/
def mayClose (s : Session) : Bool :=
  s.active && s.dispatching = 1 && s.outstanding = 0 && s.retrying.isEmpty && 1 ≤ s.maxRequests

theorem mayClose_iff (ha : s.active) {others : Nat} (hd : s.dispatching = others + 1) :
    s.mayClose ↔ others = 0 ∧ s.outstanding = 0 ∧ s.retrying = [] ∧ 1 ≤ s.maxRequests := by
  simp [mayClose, ha, hd, and_assoc]

theorem maySend_of_closing (hd : s.IsHandingOut) (ho : s.outstanding = 0) :
    maySend { s with dispatching := s.dispatching - 1 } = s.mayClose := by
  have hiff : s.dispatching - 1 = 0 ↔ s.dispatching = 1 := by
    unfold IsHandingOut at hd
    omega
  rw [Bool.eq_iff_iff]
  simp only [maySend, mayClose, hiff, ho, Bool.and_eq_true, decide_eq_true_eq, Nat.succ_le_iff]
  constructor
  · rintro ⟨⟨⟨hlast, hactive⟩, hmay⟩, hretrying⟩
    exact ⟨⟨⟨⟨hactive, hlast⟩, trivial⟩, hretrying⟩, hmay⟩
  · rintro ⟨⟨⟨⟨hactive, hlast⟩, -⟩, hretrying⟩, hmay⟩
    exact ⟨⟨⟨hlast, hactive⟩, hmay⟩, hretrying⟩

/-- **What is pending** when a body has been handed out goes out, or nothing does. -/
theorem closeBody_of_pending (hst : s.stream.isSome) (hb : s.pending = some b) (hd : s.IsHandingOut) (now : Nat) :
    if s.mayClose then
      (∃ q, (s.closeBody now).posts = [q] ∧ q.text = b.text) ∧ (s.closeBody now).session.pending = none
    else (s.closeBody now).posts = [] ∧ (s.closeBody now).session.pending = some b := by
  have hcases := keepOpen_cases now { s with dispatching := s.dispatching - 1 }
  unfold closeBody
  generalize ht : ({ s with dispatching := s.dispatching - 1 } : Session) = t at hcases
  have hpending : t.pending = some b := by rw [← ht, hb]
  rcases hcases with ⟨hidle, hk⟩ | ⟨hnone, -, hk⟩ | ⟨-, -, -, hpending', -⟩
  · have hclose : s.mayClose = false := by
      rcases hidle with hno | hbusy
      · simp [← ht] at hno
        simp [hno] at hst
      · have hbusy' : s.outstanding ≠ 0 := by rwa [← ht] at hbusy
        simp [mayClose, hbusy']
    rw [hclose, hk]
    exact ⟨rfl, hpending⟩
  · have hclose : t.maySend = s.mayClose := by
      rw [← ht, maySend_of_closing hd (by rwa [← ht] at hnone)]
    rw [hk, ← hclose]
    rcases flush_cases now t with ⟨hidle, hf⟩ | ⟨settings, body, hmay, -, hbody, hf⟩
    · have hnot : t.maySend = false := hidle.resolve_right (by simp [hpending])
      rw [hnot, hf]
      exact ⟨rfl, hpending⟩
    · obtain rfl : b = body := Option.some.inj (hpending.symm.trans hbody)
      rw [hmay, hf]
      exact ⟨⟨_, rfl, rfl⟩, rfl⟩
  · simp [hpending] at hpending'

theorem dispatching_closeBody (now : Nat) (s : Session) :
    (s.closeBody now).session.dispatching = s.dispatching - 1 :=
  (keepOpen_frame now { s with dispatching := s.dispatching - 1 }).dispatching

end Session

end XmppBosh.Bosh
