import Mathlib.Data.List.Induction
import XmppBosh.Proofs.Sasl.Messages

/-!
# An exchange that ends well

An exchange may be called in any order, with any messages. It ends well only when the server has proved
that it knows the password.

* `Scram.Call` : what may be asked of an exchange; `Scram.follow` : an exchange after some events, of
  which each may be a call, and `Scram.run` : after calls;
* `created_call`, `started_call`, `proved_call`, `failed_call`, `verified_call` : what a call does in each
  phase;
* `Accepted`, `Proven` : a server-first message has been accepted, and the proof shown, since an exchange
  was started;
* `course`, `proven_of_verified`, `owes_of_accepted` : how far an exchange has come by that;
* `proven_of_isDone` : an exchange that is done has been proved since its latest initial message.
-/

namespace XmppBosh.Sasl.Scram

/-! ## Calls -/

inductive Call where
  | initial
  | response (challenge : Option Bytes)
  | success (data : Option Bytes)
  deriving DecidableEq

def call (c : Call) (s : Scram) : Scram :=
  match c with
  | .initial => s.initial.1
  | .response challenge => (s.response challenge).1
  | .success data => (s.success data).1

variable {ε : Type} {call? : ε → Option Call}

/-- The exchange after some events, of which each may be a call. -/
def follow (call? : ε → Option Call) (es : List ε) (s : Scram) : Scram :=
  (es.filterMap call?).foldl (fun s c => s.call c) s

def run (calls : List Call) (s : Scram) : Scram := s.follow some calls

def Call.Carries (c : Call) (message : Bytes) : Prop :=
  c = .response (some message) ∨ c = .success (some message)

variable {s : Scram} {c : Call} {es : List ε} {due : Bytes}

theorem call_initial (s : Scram) : s.call .initial = { s with phase := .started } := rfl

theorem created_call (hs : s.phase = .created) (hc : c ≠ .initial) :
    s.call c = s ∨ c = .response none ∧ s.call c = { s with phase := .started } := by
  cases c with
  | initial => exact absurd rfl hc
  | response challenge =>
    cases challenge with
    | none => exact .inr ⟨rfl, by simp [call, response, hs, Scram.initial]⟩
    | some message => exact .inl (by simp [call, response, hs])
  | success data =>
    left
    cases data <;> simp [call, success, hs]

/-- An exchange that has started waits for a server-first message. -/
theorem started_call (hs : s.phase = .started) (hc : c ≠ .initial) :
    s.call c = s ∨ s.call c = { s with phase := .failed } ∨
      ∃ m choices, c = .response (some m) ∧ Offers s.nonce m choices ∧
        s.call c = { s with phase := .proved (signature s.username s.password s.nonce m choices) } := by
  cases c with
  | initial => exact absurd rfl hc
  | response challenge =>
    cases challenge with
    | none => exact .inl (by simp [call, response, hs])
    | some m =>
      right
      cases hfinal : clientFinal s.username s.password s.nonce m with
      | error e => exact .inl (by simp [call, response, hs, hfinal])
      | ok final =>
        obtain ⟨choices, hoffers, hsignature⟩ := clientFinal_ok hfinal
        exact .inr ⟨m, choices, rfl, hoffers, by simp [call, response, hs, hfinal, hsignature]⟩
  | success data =>
    left
    cases data <;> simp [call, success, hs]

theorem started_offers {m : Bytes} {choices : ServerFirst} (hs : s.phase = .started)
    (h : Offers s.nonce m choices) : s.call (.response (some m)) =
      { s with phase := .proved (signature s.username s.password s.nonce m choices) } := by
  obtain ⟨final, hfinal, hsignature⟩ :=
    clientFinal_of_offers h s.username s.password
  simp [call, response, hs, hfinal, hsignature]

/-- An exchange that waits for the server's proof gets it, fails, or goes on waiting. -/
theorem proved_call (hs : s.phase = .proved due) (hc : c ≠ .initial) :
    s.call c = s ∨ s.call c = { s with phase := .failed } ∨
      ∃ m, c.Carries m ∧ Shows due m ∧ s.call c = { s with phase := .verified } := by
  have hmessage (m : Bytes) (hcall : s.call c = (s.verify due m).1) (hcarries : c.Carries m) :
      s.call c = s ∨ s.call c = { s with phase := .failed } ∨
        ∃ m, c.Carries m ∧ Shows due m ∧ s.call c = { s with phase := .verified } := by
    rw [hcall]
    rcases verify_cases s due m with ⟨hshows, hv⟩ | ⟨phase, e, rfl | rfl, hv⟩
    · exact .inr (.inr ⟨m, hcarries, hshows, by rw [hv]⟩)
    · exact .inl (by rw [hv])
    · exact .inr (.inl (by rw [hv]))
  cases c with
  | initial => exact absurd rfl hc
  | response challenge =>
    cases challenge with
    | none => exact .inl (by simp [call, response, hs])
    | some m => exact hmessage m (by simp [call, response, hs]) (.inl rfl)
  | success data =>
    cases data with
    | none => exact .inr (.inl (by simp [call, success, hs]))
    | some m => exact hmessage m (by simp [call, success, hs]) (.inr rfl)

theorem failed_call (hs : s.phase = .failed) (hc : c ≠ .initial) : s.call c = s := by
  cases c with
  | initial => exact absurd rfl hc
  | response challenge => cases challenge <;> simp [call, response, hs]
  | success data => cases data <;> simp [call, success, hs]

theorem verified_call (hs : s.phase = .verified) (hc : c ≠ .initial) : s.call c = s := by
  cases c with
  | initial => exact absurd rfl hc
  | response challenge => cases challenge <;> simp [call, response, hs]
  | success data => cases data <;> simp [call, success, hs]

theorem response_ok {challenge : Option Bytes} {answer : Bytes}
    (h : (s.response challenge).2 = .ok answer) : (s.call (.response challenge)).phase ≠ .failed := by
  intro hfailed
  rw [call] at hfailed
  unfold response at h hfailed
  split at h
  · next m hs =>
    rw [hs] at hfailed
    cases hfinal : clientFinal s.username s.password s.nonce m <;> simp [hfinal] at h hfailed
  · next due m hs =>
    rcases verify_cases s due m with ⟨-, hv⟩ | ⟨phase, e, -, hv⟩
    · simp [hs, hv] at hfailed
    · simp [hv, Except.map] at h
  · next hs => simp [hs, Scram.initial] at hfailed
  all_goals cases h

theorem success_ok {data : Option Bytes} (h : (s.success data).2 = .ok ()) :
    (s.call (.success data)).phase = .verified := by
  rw [call]
  unfold success at h ⊢
  split at h
  · next hs => simp [hs]
  · next due m hs =>
    rcases verify_cases s due m with ⟨-, hv⟩ | ⟨phase, e, -, hv⟩
    · simp [hv]
    · simp [hv] at h
  all_goals cases h

/-! ## Events -/

@[simp] theorem follow_nil (call? : ε → Option Call) (s : Scram) : s.follow call? [] = s := rfl

theorem follow_append (call? : ε → Option Call) (es es' : List ε) (s : Scram) :
    s.follow call? (es ++ es') = (s.follow call? es).follow call? es' := by
  simp [follow, List.filterMap_append, List.foldl_append]

theorem follow_concat (call? : ε → Option Call) (es : List ε) (e : ε) (s : Scram) :
    s.follow call? (es ++ [e]) = (call? e).elim (s.follow call? es) (s.follow call? es).call := by
  rw [follow_append]
  cases h : call? e <;> simp [follow, h]

/-- A server-first message has been accepted since an exchange was started, and this signature is due
for it. -/
def Accepted (call? : ε → Option Call) (s : Scram) (due : Bytes) (es : List ε) : Prop :=
  ∃ before e after m choices, es = before ++ e :: after ∧
    (s.follow call? before).phase = .started ∧ call? e = some (.response (some m)) ∧
    Offers s.nonce m choices ∧ due = signature s.username s.password s.nonce m choices

/-- After that a message has shown the signature. -/
def Proven (call? : ε → Option Call) (s : Scram) (es : List ε) : Prop :=
  ∃ before e after due m c, es = before ++ e :: after ∧ Accepted call? s due before ∧
    call? e = some c ∧ c.Carries m ∧ Shows due m

/-- How far an exchange can have come since it was started. -/
inductive Course (call? : ε → Option Call) (s : Scram) (es : List ε) : Phase → Prop
  | started : Course call? s es .started
  | proved (due : Bytes) (accepted : Accepted call? s due es) : Course call? s es (.proved due)
  | verified (proven : Proven call? s es) : Course call? s es .verified
  | failed : Course call? s es .failed

theorem Accepted.concat (h : Accepted call? s due es) (e : ε) : Accepted call? s due (es ++ [e]) := by
  obtain ⟨before, e', after, m, choices, rfl, hrest⟩ := h
  exact ⟨before, e', after ++ [e], m, choices, by simp, hrest⟩

theorem Proven.concat (h : Proven call? s es) (e : ε) : Proven call? s (es ++ [e]) := by
  obtain ⟨before, e', after, due, m, c, rfl, hrest⟩ := h
  exact ⟨before, e', after ++ [e], due, m, c, by simp, hrest⟩

theorem Course.concat {phase : Phase} (h : Course call? s es phase) (e : ε) :
    Course call? s (es ++ [e]) phase := by
  cases h with
  | started => exact .started
  | proved due accepted => exact .proved due (accepted.concat e)
  | verified proven => exact .verified (proven.concat e)
  | failed => exact .failed

/-- **How far an exchange has come since it was started**, whatever has happened since. -/
theorem course (hs : s.phase = .started) (hes : ∀ e ∈ es, call? e ≠ some .initial) :
    ∃ phase, s.follow call? es = { s with phase } ∧ Course call? s es phase := by
  induction es using List.reverseRecOn with
  | nil => exact ⟨.started, by rw [follow_nil, ← hs], .started⟩
  | append_singleton es e ih =>
    rw [List.forall_mem_append] at hes
    obtain ⟨phase, hfollow, hcourse⟩ := ih hes.1
    rw [follow_concat, hfollow]
    cases hcall : call? e with
    | none => exact ⟨phase, rfl, hcourse.concat e⟩
    | some c =>
      have hc : c ≠ .initial := by
        rintro rfl
        exact hes.2 e (by simp) hcall
      rw [Option.elim_some]
      -- Each phase is left only as its call lemma says; the other calls change nothing.
      cases hcourse with
      | started =>
        rcases started_call (s := { s with phase := .started }) rfl hc with
          hsame | hfailed | ⟨m, choices, rfl, hoffers, hproved⟩
        · exact ⟨.started, hsame, .started⟩
        · exact ⟨.failed, hfailed, .failed⟩
        · refine ⟨_, hproved, .proved _ ⟨es, e, [], m, choices, rfl, ?_, hcall, hoffers, rfl⟩⟩
          rw [hfollow]
      | proved due accepted =>
        rcases proved_call (s := { s with phase := .proved due }) rfl hc with
          hsame | hfailed | ⟨m, hcarries, hshows, hverified⟩
        · exact ⟨.proved due, hsame, .proved due (accepted.concat e)⟩
        · exact ⟨.failed, hfailed, .failed⟩
        · exact ⟨.verified, hverified,
            .verified ⟨es, e, [], due, m, c, rfl, accepted, hcall, hcarries, hshows⟩⟩
      | verified proven => exact ⟨.verified, verified_call rfl hc, .verified (proven.concat e)⟩
      | failed => exact ⟨.failed, failed_call rfl hc, .failed⟩

theorem proven_of_verified (hs : s.phase = .started) (hes : ∀ e ∈ es, call? e ≠ some .initial)
    (h : (s.follow call? es).phase = .verified) : Proven call? s es := by
  obtain ⟨phase, hfollow, hcourse⟩ := course hs hes
  rw [hfollow] at h
  obtain rfl : phase = .verified := h
  cases hcourse with
  | verified proven => exact proven

/-- The server owes this signature, or the exchange has ended. -/
def Owes (due : Bytes) (s : Scram) : Prop :=
  s.phase = .proved due ∨ s.phase = .verified ∨ s.phase = .failed

theorem Owes.call (h : s.Owes due) (hc : c ≠ .initial) : (s.call c).Owes due := by
  rcases h with hproved | hverified | hfailed
  · rcases proved_call hproved hc with hsame | hfailed | ⟨_, -, -, hverified⟩
    · exact .inl (by rw [hsame, hproved])
    · exact .inr (.inr (by rw [hfailed]))
    · exact .inr (.inl (by rw [hverified]))
  · exact .inr (.inl (by rw [verified_call hverified hc, hverified]))
  · exact .inr (.inr (by rw [failed_call hfailed hc, hfailed]))

/-- Once a server-first message has been accepted, its signature is due until the exchange ends. -/
theorem owes_of_accepted (hs : s.phase = .started) (hes : ∀ e ∈ es, call? e ≠ some .initial)
    (h : Accepted call? s due es) : (s.follow call? es).Owes due := by
  induction es using List.reverseRecOn with
  | nil =>
    obtain ⟨before, e, after, m, choices, heq, -⟩ := h
    simp at heq
  | append_singleton es e ih =>
    rw [List.forall_mem_append] at hes
    obtain ⟨before, e', after, m, choices, heq, hstarted, hcall, hoffers, hdue⟩ := h
    -- It is accepted by the last event, or it was before, and the last event leaves it so.
    rcases List.eq_nil_or_concat after with rfl | ⟨after, last, rfl⟩
    · obtain ⟨rfl, he⟩ := List.append_inj' heq rfl
      obtain rfl : e = e' := by simpa using he
      obtain ⟨phase, hfollow, -⟩ := course hs hes.1
      rw [hfollow] at hstarted
      obtain rfl : phase = .started := hstarted
      left
      rw [follow_concat, hcall, Option.elim_some, hfollow,
        started_offers (s := { s with phase := .started }) rfl hoffers, hdue]
    · rw [List.concat_eq_append, ← List.cons_append, ← List.append_assoc] at heq
      obtain ⟨rfl, -⟩ := List.append_inj' heq rfl
      have howes := ih hes.1 ⟨before, e', after, m, choices, rfl, hstarted, hcall, hoffers, hdue⟩
      rw [follow_concat]
      cases hlast : call? e with
      | none => exact howes
      | some c =>
        apply howes.call
        rintro rfl
        exact hes.2 e (by simp) hlast

/-! ## Calls in any order -/

def Opens (s : Scram) (before : List Call) (c : Call) : Prop :=
  c = .initial ∨ c = .response none ∧ (s.run before).phase = .created

theorem run_append (calls calls' : List Call) (s : Scram) :
    s.run (calls ++ calls') = (s.run calls).run calls' := follow_append some calls calls' s

theorem run_concat (calls : List Call) (c : Call) (s : Scram) :
    s.run (calls ++ [c]) = (s.run calls).call c := follow_concat some calls c s

/-- A new exchange is as it was, or there is a latest initial message. -/
theorem latest_initial (hs : s.phase = .created) (calls : List Call) :
    s.run calls = s ∨ ∃ before opening during, calls = before ++ opening :: during ∧
      s.Opens before opening ∧ .initial ∉ during ∧
      s.run (before ++ [opening]) = { s with phase := .started } := by
  induction calls using List.reverseRecOn with
  | nil => exact .inl rfl
  | append_singleton calls c ih =>
    by_cases hc : c = .initial
    · subst hc
      refine .inr ⟨calls, .initial, [], rfl, .inl rfl, List.not_mem_nil, ?_⟩
      rw [run_concat, call_initial]
      -- Whatever was said before, the credentials are the same.
      rcases ih with hsame | ⟨before, opening, during, rfl, -, hduring, hstarted⟩
      · rw [hsame]
      · rw [← List.singleton_append, ← List.append_assoc, run_append, hstarted]
        have hcalls : ∀ c ∈ during, some c ≠ some .initial :=
          fun c hc hcall => hduring (Option.some.inj hcall ▸ hc)
        obtain ⟨phase, hfollow, -⟩ := course (s := { s with phase := .started }) rfl hcalls
        rw [run, hfollow]
    · rcases ih with hsame | ⟨before, opening, during, rfl, hopens, hduring, hstarted⟩
      · rw [run_concat, hsame]
        rcases created_call hs hc with hcall | ⟨rfl, hcall⟩
        · exact .inl hcall
        · refine .inr ⟨calls, .response none, [], rfl, .inr ⟨rfl, ?_⟩, List.not_mem_nil, ?_⟩
          · rw [hsame, hs]
          · rw [run_concat, hsame, hcall]
      · refine .inr ⟨before, opening, during ++ [c], by simp, hopens, ?_, hstarted⟩
        rw [List.mem_append, List.mem_singleton, not_or]
        exact ⟨hduring, Ne.symm hc⟩

/-- **An exchange is done only if the server has proved itself** since the latest initial message,
whatever has been called with whatever messages. -/
theorem proven_of_isDone (hs : s.phase = .created) {calls : List Call} (h : (s.run calls).isDone) :
    ∃ before opening during, calls = before ++ opening :: during ∧ s.Opens before opening ∧
      .initial ∉ during ∧ Proven some { s with phase := .started } during := by
  rcases latest_initial hs calls with hsame | ⟨before, opening, during, rfl, hopens, hduring, hstarted⟩
  · rw [hsame, isDone, hs] at h
    cases h
  · refine ⟨before, opening, during, rfl, hopens, hduring, ?_⟩
    rw [← List.singleton_append, ← List.append_assoc, run_append, hstarted] at h
    apply proven_of_verified rfl
    · exact fun e he hcall => hduring (Option.some.inj hcall ▸ he)
    · exact of_decide_eq_true h

end XmppBosh.Sasl.Scram
