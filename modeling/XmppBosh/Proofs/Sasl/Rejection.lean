import XmppBosh.Proofs.Sasl.Exchange

/-!
# What a rejected proof leaves behind

A server that owes its signature shows it with a last message. If that message is rejected, the exchange should
have come to its end.

* `Scram.answer`, `Scram.Refuses` : what comes of a call, and whether that is an error;
* `Scram.IsOver` : nothing but a new initial message is of any use; `isOver_of_failed` : a failed exchange is over;
* `not_isOver_of_proved` : one that waits for the signature is not, because the server may still show it;
* `Frame.IsList` : a message that is a list of attributes at all; `call_of_refused` : what a rejected message makes
  of an exchange;
* `isOver_iff_of_refused` : the exchange is over exactly if the message was such a list.
-/

namespace XmppBosh.Sasl.Scram

/-! ## Refusals -/

/-- What comes of a call: a message, which is empty if there is nothing to say, or an error. -/
def answer (c : Call) (s : Scram) : Except MechanismError Bytes :=
  match c with
  | .initial => .ok s.initial.2
  | .response challenge => (s.response challenge).2
  | .success data => (s.success data).2.map fun _ => []

def Refuses (s : Scram) (c : Call) : Prop := ∃ e, s.answer c = .error e

/-- Until there is a new initial message, every call ends in an error and the server has not proved itself,
whatever is called in whatever order. -/
def IsOver (s : Scram) : Prop :=
  ∀ calls c, .initial ∉ calls → c ≠ .initial → (s.run calls).Refuses c ∧ (s.run calls).isDone = false

def Frame.IsList (message : Bytes) : Prop := ∃ attributes, parse message = .ok attributes

variable {s : Scram} {c : Call} {due message : Bytes}

/-! ## Exchanges that have failed -/

theorem refuses_of_failed (hs : s.phase = .failed) (hc : c ≠ .initial) : s.Refuses c := by
  cases c with
  | initial => exact absurd rfl hc
  | response challenge =>
    exact ⟨.unexpectedChallenge "challenge after the exchange ended", by simp [answer, response, hs]⟩
  | success data =>
    exact ⟨.unexpectedChallenge "success before the exchange completed",
      by cases data <;> simp [answer, success, hs, Except.map]⟩

theorem run_of_failed (hs : s.phase = .failed) {calls : List Call} (hcalls : .initial ∉ calls) :
    s.run calls = s := by
  induction calls with
  | nil => rfl
  | cons c calls ih =>
    rw [List.mem_cons, not_or] at hcalls
    rw [← List.singleton_append, run_append]
    have hcall : s.run [c] = s := failed_call hs (Ne.symm hcalls.1)
    rw [hcall, ih hcalls.2]

/-- **A failed exchange is over.** -/
theorem isOver_of_failed (hs : s.phase = .failed) : s.IsOver := by
  intro calls c hcalls hc
  rw [run_of_failed hs hcalls]
  exact ⟨refuses_of_failed hs hc, by simp [isDone, hs]⟩

/-! ## Exchanges that wait for the signature -/

/-- A message that carries the server's proof is verified, whichever call it comes with. -/
theorem call_carries (hs : s.phase = .proved due) (hc : c.Carries message) :
    s.call c = (s.verify due message).1 ∧ s.answer c = (s.verify due message).2.map fun _ => [] := by
  rcases hc with rfl | rfl
  · simp [call, answer, response, hs]
  · simp [call, answer, success, hs]

/-- **An exchange that waits for the signature is not over**: a server that knows the password can show it. -/
theorem not_isOver_of_proved (hs : s.phase = .proved due) : ¬ s.IsOver := by
  intro h
  have hcarries : (Call.success (some (serverFinal due))).Carries (serverFinal due) := .inr rfl
  obtain ⟨⟨e, he⟩, -⟩ := h [] (.success (some (serverFinal due))) List.not_mem_nil nofun
  have hanswer := (call_carries hs hcarries).2
  rw [verify_of_shows (shows_serverFinal due), if_pos rfl] at hanswer
  cases hanswer.symm.trans he

/-- **What a rejected message leaves behind**: a failed exchange if it was a list of attributes, and else the
exchange as it was. -/
theorem call_of_refused (hs : s.phase = .proved due) (hc : c.Carries message) (h : s.Refuses c) :
    s.call c = match Frame.parse message with
      | .ok _ => { s with phase := .failed }
      | .error _ => s := by
  obtain ⟨e, he⟩ := h
  obtain ⟨hcall, hanswer⟩ := call_carries hs hc
  rw [hcall]
  rw [hanswer] at he
  unfold verify at he ⊢
  cases hparse : Frame.parse message with
  | error _ => rfl
  | ok attributes =>
    cases hcheck : checkSignature due attributes with
    | ok _ => simp [hparse, hcheck, Except.map] at he
    | error _ => simp [hcheck]

/-- **Whether a rejected proof ends the exchange.** An exchange that waits for the server's signature and rejects a
message has failed, and is over, exactly if the message was a list of attributes: one that reports an error, has no
signature, or has another one than is due. A message that was no such list leaves it waiting, and the server may
still prove itself. -/
theorem isOver_iff_of_refused (hs : s.phase = .proved due) (hc : c.Carries message) (h : s.Refuses c) :
    ((s.call c).phase = .failed ↔ Frame.IsList message) ∧ ((s.call c).IsOver ↔ Frame.IsList message) ∧
      (¬ Frame.IsList message → s.call c = s) := by
  have hcall := call_of_refused hs hc h
  cases hparse : Frame.parse message with
  | ok attributes =>
    rw [hparse] at hcall
    have hlist : Frame.IsList message := ⟨attributes, hparse⟩
    have hfailed : (s.call c).phase = .failed := by rw [hcall]
    exact ⟨iff_of_true hfailed hlist, iff_of_true (isOver_of_failed hfailed) hlist, fun hnone => absurd hlist hnone⟩
  | error e =>
    rw [hparse] at hcall
    have hnone : ¬ Frame.IsList message := by
      rintro ⟨attributes, hattributes⟩
      cases hparse.symm.trans hattributes
    refine ⟨iff_of_false ?_ hnone, iff_of_false ?_ hnone, fun _ => hcall⟩
    · rw [hcall, hs]
      nofun
    · rw [hcall]
      exact not_isOver_of_proved hs

/-- A byte that is no text is rejected, and the exchange waits as before. -/
theorem not_isOver_of_garbled :
    let client : Scram := { username := "user", password := "pencil", nonce := "fyko+d2lbbFgONRv9qkxdawL" }
    let first := Bytes.utf8 "r=fyko+d2lbbFgONRv9qkxdawL3rfcNHYJY1ZVvWVs7j,s=QSXCR+Q6sek8bf92,i=4096"
    let s := client.run [.initial, .response (some first)]
    s.Refuses (.success (some [255])) ∧ s.call (.success (some [255])) = s ∧
      ¬ (s.call (.success (some [255]))).IsOver := by
  intro client first s
  have hoffers : ∃ choices, ServerFirst.parse client.nonce first = .ok choices := by
    have hok : (ServerFirst.parse client.nonce first).toBool := by decide +kernel
    cases hparse : ServerFirst.parse client.nonce first with
    | ok choices => exact ⟨choices, rfl⟩
    | error e =>
      rw [hparse] at hok
      cases hok
  obtain ⟨choices, hchoices⟩ := hoffers
  have hs : s = { client with phase := .proved (signature "user" "pencil" client.nonce first choices) } :=
    started_offers (s := client.call .initial) rfl (offers_of_parse hchoices)
  have hgarbled : ¬ Frame.IsList [255] := by
    rintro ⟨attributes, hattributes⟩
    have hno : (Frame.parse [255]).toBool = false := by decide +kernel
    rw [hattributes] at hno
    cases hno
  have hphase : s.phase = .proved (signature "user" "pencil" client.nonce first choices) := by rw [hs]
  have hrefuses : s.Refuses (.success (some [255])) := by
    refine ⟨.cannotDecodeSuccessResponse, ?_⟩
    rw [(call_carries hphase (.inr rfl)).2, verify]
    cases hparse : Frame.parse [255] with
    | error e => rfl
    | ok attributes => exact absurd ⟨attributes, hparse⟩ hgarbled
  obtain ⟨-, hover, hsame⟩ := isOver_iff_of_refused hphase (.inr rfl) hrefuses
  exact ⟨hrefuses, hsame hgarbled, fun h => hgarbled (hover.1 h)⟩

end XmppBosh.Sasl.Scram
