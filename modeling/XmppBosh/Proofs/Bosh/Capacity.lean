import XmppBosh.Proofs.Bosh.Admission

/-!
# How many requests wait at a time

A session counts its requests up in one place and down in several, and a count below zero would go
unnoticed. In a single session this does not come up: the count is never below what waits, so that no
more than the settings allow is on its way of the session's own accord.

* `Traffic.Covered` : the session counts everything that waits; `Covered.act` : a step of a session keeps
  to this;
* `covered_run` : so does every run with a single session;
* `capped_of_single` : what this says about the count and about the requests that go out.
-/

namespace XmppBosh.Bosh.Traffic

open Session

variable {t : Traffic} {m : Move} {i : Input} {now : Nat}

/-- The session counts every request that waits for a reply or for its retry. -/
def Covered (t : Traffic) : Prop := t.waiting.length ≤ t.session.outstanding

theorem Covered.outstanding_pos (h : t.Covered) (hi : t.input? m = some i) (hs : t.session.settles i) :
    0 < t.session.outstanding := by
  unfold Covered at h
  cases turn hi 0 with
  | more settles => simp [hs] at settles
  | done _ mem | again _ mem =>
    have hpos := List.length_pos_of_mem mem
    omega

/-- **A step of a session** keeps everything counted. -/
theorem Covered.act (h : t.Covered) (hi : t.input? m = some i) (hb : t.session.begins i = false)
    (now : Nat) : ((t.consume m).act now i).Covered := by
  have hcount := step_outstanding hb now
  unfold Covered at h ⊢
  rw [session_act]
  cases turn hi now with
  | more settles _ waiting =>
    have hlength := waiting.length_eq
    rw [settles] at hcount
    simp only [List.length_append, List.length_map, Bool.toNat_false] at hlength hcount
    omega
  | done request mem _ waiting =>
    have hlength := waiting.length_eq
    have hpos := List.length_pos_of_mem mem
    have hle := Bool.toNat_le (t.session.settles i)
    simp only [List.length_append, List.length_map, List.length_cons] at hlength
    omega
  | again request mem _ text waiting =>
    have hlength := waiting.length_eq
    have hpos := List.length_pos_of_mem mem
    have hle := Bool.toNat_le (t.session.settles i)
    have hone := congrArg List.length text
    simp only [List.length_map, List.length_singleton] at hone
    omega

theorem Fresh.covered_act (h : t.Fresh) (hi : t.input? m = some i) (hb : t.session.begins i) (now : Nat) :
    ((t.consume m).act now i).Covered := by
  have hposts := length_posts_of_begins hb now
  unfold Covered
  rw [session_act]
  cases turn hi now with
  | more _ _ waiting =>
    have hlength := waiting.length_eq
    simp only [h.waiting, List.nil_append, List.length_map] at hlength
    omega
  | done _ mem | again _ mem => simp [h.waiting] at mem

/-- A first transmission that nothing forces finds less waiting than the settings allow. -/
theorem waiting_lt_of_mem_posts (hfresh : t.count = 0 → t.Fresh) (hcovered : t.count ≤ 1 → t.Covered)
    (hafter : t.countAfter i ≤ 1) (hr : i.isRetry = false) {q : Request}
    (hq : q ∈ (t.session.step now i).posts) :
    Forced i t.session q ∨ t.waiting.length < t.session.maxRequests := by
  rcases admitted hr hq with hforced | ⟨hb, hmax⟩ | ⟨⟨hlt, -⟩, -⟩
  · exact .inl hforced
  · -- the request opens the session, before which nothing was on its way
    simp only [countAfter, hb, if_true] at hafter
    rw [(hfresh (by omega)).waiting]
    exact .inr hmax
  · have hle := hcovered (Nat.le_trans (le_countAfter i t) hafter)
    exact .inr (Nat.lt_of_le_of_lt hle hlt)

/-- **In a single session everything is counted**, and before it nothing is on its way. -/
theorem covered_run (settings : Option Settings) (timings : Timings) (ms : List (Nat × Move)) :
    let t := (start settings timings).run ms
    (t.count = 0 → t.Fresh) ∧ (t.count ≤ 1 → t.Covered) := by
  apply run_induction (P := fun t => (t.count = 0 → t.Fresh) ∧ (t.count ≤ 1 → t.Covered))
  · rintro t now m i ⟨hfresh, hcovered⟩ hi
    -- Nothing waits before the first session, so that it counts all there is when it begins.
    have hcount : ((t.consume m).act now i).count = t.countAfter i := countAfter_consume m i t
    rw [hcount]
    cases hb : t.session.begins i with
    | true =>
      simp only [countAfter, hb, if_true]
      refine ⟨by omega, fun hle => (hfresh (by omega)).covered_act hi hb now⟩
    | false =>
      rw [countAfter_of_not_begins hb]
      exact ⟨fun h => ((hfresh h).act hb m now).1, fun h => (hcovered h).act hi hb now⟩
  · exact ⟨fun _ => .start settings timings, fun _ => Nat.zero_le _⟩

/-- **Few requests wait at a time.** In a run with a single session, whatever happens in whatever order,
the count is never below what waits for a reply or for its retry. So nothing is taken off a count of
zero, and the count is exact from one step to the next. A request that is handed over for the first
time, other than one that puts the session aside or ends it, finds fewer than the settings allow
waiting. -/
theorem capped_of_single (settings : Option Settings) (timings : Timings) (ms : List (Nat × Move))
    (hone : ((start settings timings).run ms).count ≤ 1) :
    let t := (start settings timings).run ms
    t.unanswered.length + t.retries.length ≤ t.session.outstanding ∧
      ∀ now m i, t.input? m = some i →
        (t.session.settles i → 0 < t.session.outstanding) ∧
        (t.session.begins i = false →
          (t.session.step now i).session.outstanding + (t.session.settles i).toNat =
            t.session.outstanding + (t.session.step now i).posts.length) ∧
        (t.countAfter i ≤ 1 → i.isRetry = false → ∀ q ∈ (t.session.step now i).posts,
          Forced i t.session q ∨
            t.unanswered.length + t.retries.length < t.session.maxRequests) := by
  intro t
  obtain ⟨hfresh, hcovered⟩ := covered_run settings timings ms
  have hlength : t.waiting.length = t.unanswered.length + t.retries.length := by simp [waiting]
  rw [← hlength]
  refine ⟨hcovered hone, fun now m i hi => ⟨?_, fun hb => ?_, fun hafter hr q hq => ?_⟩⟩
  · exact (hcovered hone).outstanding_pos hi
  · have hpos : t.session.settles i → 0 < t.session.outstanding := (hcovered hone).outstanding_pos hi
    rw [step_outstanding hb]
    cases hs : t.session.settles i with
    | true =>
      have hpos := hpos hs
      simp only [Bool.toNat_true]
      omega
    | false => rfl
  · exact waiting_lt_of_mem_posts hfresh hcovered hafter hr hq

/-- Both of two requests go wrong, so that two wait for their retry. The first alarm takes its request off
the count and hands it over again. -/
theorem capped_of_repeated :
    let settings : Settings := { httpBase := "http://localhost/", hostName := "localhost" }
    let stanza : Xml.Element := { tag := { name := "message", ns := "jabber:client" } }
    let ms : List (Nat × Move) := [(0, .call (.connect 0)), (0, .call (.send stanza)),
      (0, .reply 0 (.failure .timeout)), (0, .call (.connect 0)), (0, .reply 0 (.failure .timeout)),
      (0, .call (.send stanza))]
    let t := (start (some settings) {}).run ms
    t.count = 1 ∧ t.retries.length = 2 ∧ t.unanswered.length + t.retries.length ≤ t.session.outstanding ∧
      ∃ i, t.input? (.fire 1) = some i ∧ t.session.settles i ∧ 0 < t.session.outstanding := by
  intro settings stanza ms t
  have hcount : t.count = 1 := by decide +kernel
  have hsettles : (t.input? (.fire 1)).map t.session.settles = some true := by decide +kernel
  obtain ⟨hle, hstep⟩ := capped_of_single (some settings) {} ms (Nat.le_of_eq hcount)
  obtain ⟨i, hi, hs⟩ := Option.map_eq_some_iff.1 hsettles
  obtain ⟨hpos, -⟩ := hstep 2000 (.fire 1) i hi
  exact ⟨hcount, by decide +kernel, hle, i, hi, hs, hpos hs⟩

end XmppBosh.Bosh.Traffic
