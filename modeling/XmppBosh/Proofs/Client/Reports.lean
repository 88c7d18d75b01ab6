import XmppBosh.Proofs.Client.Calls

/-!
# Whose success an authentication reports

* `Turn.isDesk` : what a program does with its manager, and what follows from it;
* `Manned.next`, `manned_desk` : one turn at the desk, and any number of them;
* `success_reported` : an authentication that is waited for and has succeeded reports the first result that was
  announced after its request; when that is the success of its own attempt, and for its own account.
-/

namespace XmppBosh.Client

open Sasl (Operation)
open Sasl.Negotiation (operate attemptAfter begins tally results)

def Turn.isDesk : Turn → Bool
  | .command c => c.isDesk
  | .task | .refill | .ripen _ => true

namespace World

variable {w₀ : World} {ts : List Turn} {t : Turn}

/-- One turn: the desk goes on, and nothing is reported but the success that a call has waited for. -/
theorem Manned.next (hm : Manned w₀ ts) (ht : t.isDesk) : Manned w₀ (ts ++ [t]) ∧
    (((w₀.after ts).turn t).log.filterMap Event.jid? = (w₀.after ts).log.filterMap Event.jid? ∨
      ∃ jid, ((w₀.after ts).turn t).log.filterMap Event.jid? =
        (w₀.after ts).log.filterMap Event.jid? ++ [jid] ∧ Reports w₀ ts t jid) := by
  have hd := hm.desk
  cases t with
  | command c =>
    by_cases hcall : ∃ text offer, c = .authenticate text offer
    · obtain ⟨text, offer, rfl⟩ := hcall
      obtain ⟨hmanned, hlog⟩ := hm.authenticate text offer
      rw [after_concat] at hlog
      exact ⟨hmanned, .inl (by rw [hlog])⟩
    · have htakes := takes_command hd ht fun text offer heq => hcall ⟨text, offer, heq⟩
      exact ⟨hm.turn_of_takes rfl htakes, .inl htakes.log⟩
  | task =>
    cases hqueue : (w₀.after ts).queue with
    | nil =>
      have hturn : (w₀.after ts).turn .task = w₀.after ts := by simp only [World.turn, hqueue]
      have ho : (w₀.after ts).operation? .task = none := by simp [operation?, entering?, hqueue]
      refine ⟨hm.turn_of_takes ho ?_, .inl (by rw [hturn])⟩
      rw [hturn]
      exact .refl hd
    | cons t rest =>
      by_cases hcall : ∃ id a, t = .authentication id ∧ (w₀.after ts).authentications[id]? = some a ∧
          a.phase ≠ .finished
      · obtain ⟨id, a, rfl, ha, hgoing⟩ := hcall
        cases hphase : a.phase with
        | entering =>
          obtain ⟨hmanned, hlog⟩ := hm.enter hqueue ha hphase
          exact ⟨hmanned, .inl hlog⟩
        | waiting box => exact hm.awaitOutcome hqueue ha hphase
        | finished => exact absurd hphase hgoing
      · have hfinished : ∀ id a, t = .authentication id → (w₀.after ts).authentications[id]? = some a →
            a.phase = .finished := by
          intro id a heq ha
          by_contra hgoing
          exact hcall ⟨id, a, heq, ha, hgoing⟩
        have ho : (w₀.after ts).operation? .task = none := by
          cases t with
          | authentication id =>
            cases ha : (w₀.after ts).authentications[id]? with
            | none => simp [operation?, entering?, hqueue, ha]
            | some a => simp [operation?, entering?, hqueue, ha, hfinished id a rfl ha]
          | _ => simp [operation?, entering?, hqueue]
        have htaken : Takes none (w₀.after ts) { w₀.after ts with queue := rest } :=
          takes_of_same hd rfl rfl rfl rfl rfl rfl rfl rfl rfl rfl
        have htakes : Takes none (w₀.after ts) ((w₀.after ts).turn .task) := by
          rw [turn_task hqueue]
          exact htaken.trans_none (takes_runTask htaken.desk hfinished)
        exact ⟨hm.turn_of_takes ho htakes, .inl htakes.log⟩
  | refill =>
    have htakes : Takes none (w₀.after ts) ((w₀.after ts).turn .refill) :=
      takes_of_same hd rfl rfl rfl rfl rfl rfl rfl rfl rfl rfl
    exact ⟨hm.turn_of_takes rfl htakes, .inl htakes.log⟩
  | ripen due =>
    have htakes : Takes none (w₀.after ts) ((w₀.after ts).turn (.ripen due)) :=
      takes_of_same hd rfl rfl rfl rfl rfl rfl rfl rfl rfl rfl
    exact ⟨hm.turn_of_takes rfl htakes, .inl htakes.log⟩

def desk (starts : Nat → Nat) (nonce : String) : World :=
  (({ starts, nonce } : World).newBareLink).adoptManager 0

theorem manned_desk (starts : Nat → Nat) (nonce : String) (hts : ∀ t ∈ ts, t.isDesk) :
    Manned (desk starts nonce) ts := by
  induction ts using List.reverseRecOn with
  | nil =>
    have hidle : ∀ link, (desk starts nonce).session? link = none := by
      intro link
      cases link <;> rfl
    have hfresh : ∀ box, .mailbox box ∉ ((desk starts nonce).registry (.results 0)).toList := by
      have hresults : ((desk starts nonce).registry (.results 0)).toList = [.recorder] := rfl
      simp [hresults]
    have hawaits : ∀ id box, ¬ (desk starts nonce).Awaits id box := by
      rintro id box ⟨a, ha, -⟩
      cases ha
    exact ⟨⟨rfl, rfl, ⟨_, rfl, rfl⟩, hidle, rfl, rfl, rfl, rfl, rfl, fun box h => absurd h (hfresh box)⟩, rfl,
      List.forall_mem_nil _, fun id box h => absurd h (hawaits id box), fun i _ box h => absurd h (hawaits i box)⟩
  | append_singleton ts t ih =>
    rw [List.forall_mem_append, List.forall_mem_singleton] at hts
    exact ((ih hts.1).next hts.2).1

/-- **Whose success an authentication reports.** An authentication that is waited for and has succeeded reports the
first result that was announced after its request. That is the success of the attempt that its request has begun
exactly if no other attempt was begun in between, and then it is for its account. -/
theorem success_reported (starts : Nat → Nat) (nonce : String) {ts : List Turn} (hts : ∀ t ∈ ts, t.isDesk)
    {t : Turn} (ht : t.isDesk) {jid : Jid}
    (hjid : (((desk starts nonce).after ts).turn t).log.filterMap Event.jid? =
      ((desk starts nonce).after ts).log.filterMap Event.jid? ++ [jid]) :
    ∃ id before call after request, let asked := operations (before ++ [.task]) (desk starts nonce)
      t = .task ∧ ((desk starts nonce).after ts).queue.head? = some (.authentication id) ∧
      ts = before ++ .task :: after ∧ ((desk starts nonce).after before).entering? = some (id, call) ∧
      asked = operations before (desk starts nonce) ++ [request] ∧
      (∃ nonce, request = .request call.account call.mechanisms nonce) ∧ begins request ∧
      ∃ during success rest, operations ts (desk starts nonce) = asked ++ during ++ success :: rest ∧
        results (asked ++ during) = results asked ∧
        (operate success (attemptAfter (asked ++ during))).result = some (.succeeded jid) ∧
        ((tally (asked ++ during)).number? = some (tally asked).begun ↔ ∀ o ∈ during, ¬ begins o) ∧
        ((∀ o ∈ during, ¬ begins o) → jid = call.account.jid) := by
  have hm := manned_desk starts nonce hts
  generalize desk starts nonce = w₀ at hm hjid ⊢
  rcases (hm.next ht).2 with hsame | ⟨jid', hlog, id, box, before, call, new, rfl, hhead, hwaits, hresults⟩
  · rw [hjid, List.append_right_eq_self] at hsame
    cases hsame
  · obtain rfl : jid' = jid := by
      rw [hjid] at hlog
      simpa using hlog.symm
    obtain ⟨⟨after, hts'⟩, hentering, request, hasking, hbegins⟩ := hwaits.entered
    have hasked : operations (before ++ [.task]) w₀ = operations before w₀ ++ [request] := by
      rw [operations_concat, operation?, hentering, Option.bind_some, hasking, Option.toList_some]
    obtain ⟨since, hsince⟩ : ∃ since, operations ts w₀ = operations (before ++ [.task]) w₀ ++ since := by
      refine ⟨operations after (w₀.after (before ++ [.task])), ?_⟩
      rw [← operations_append, hts', List.append_assoc]
      rfl
    rw [hsince] at hresults
    obtain ⟨during, success, rest, rfl, hsilent, hsucceeded⟩ := Sasl.Negotiation.first_result hresults
    obtain ⟨a, ha, hjid'⟩ := Sasl.Negotiation.succeeded_attempt hsucceeded
    obtain ⟨m, -, hrequest⟩ := Option.map_eq_some_iff.1 hasking
    refine ⟨id, before, call, after, request, rfl, hhead, hts', hentering, hasked, ⟨m.nonce, hrequest.symm⟩, hbegins,
      during, success, rest, ?_, hsilent, hsucceeded, ?_, fun hduring => ?_⟩
    · rw [hsince, List.append_assoc]
    · exact Sasl.Negotiation.number?_eq_some_iff (by rw [ha]; rfl)
    · rw [hjid']
      rw [hasked, List.append_assoc, ← hrequest] at ha
      refine Sasl.Negotiation.jid_attemptAfter (hrequest ▸ hbegins) (fun o ho => ?_) ha
      simpa using hduring o ho

def overlapping : List Turn :=
  let offer : Offer := .names ["PLAIN"]
  [.command (.authenticate { jid := "u@d", password := some "p" } offer), .task,
    .command (.authorize { jid := "v@d", password := some "p" } offer),
    .command (.receive "<success xmlns='urn:ietf:params:xml:ns:xmpp-sasl'/>")]

/-- The call for one account reports the success of the other one. -/
theorem reported_of_overlapping : ∃ before call during success,
    let w := desk (fun _ => 0) "n"
    let asked := operations (before ++ [.task]) w
    (w.after before).entering? = some (0, call) ∧ call.account.jid = { node := some "u", domain := "d" } ∧
      (operate success (attemptAfter (asked ++ during))).result =
        some (.succeeded { node := some "v", domain := "d" }) ∧
      (tally (asked ++ during)).number? ≠ some (tally asked).begun := by
  have hdesk : ∀ t ∈ overlapping, t.isDesk := by decide
  have hjid : (((desk (fun _ => 0) "n").after overlapping).turn .task).log.filterMap Event.jid? =
      ((desk (fun _ => 0) "n").after overlapping).log.filterMap Event.jid? ++
        [{ node := some "v", domain := "d" }] := by
    decide +kernel
  obtain ⟨id, before, call, after, request, -, -, hbefore, hentering, -, -, -, during, success, rest, -, -,
    hsucceeded, hown, hsame⟩ := success_reported (fun _ => 0) "n" hdesk rfl hjid
  -- The call is the only task.
  obtain rfl : before = overlapping.take 1 := by
    match before, hbefore with
    | [], h => cases h
    | [_], h =>
      cases h
      rfl
    | [_, _], h => cases h
    | [_, _, _], h => cases h
    | _ :: _ :: _ :: _ :: before, h => simp [overlapping] at h
  have hcall : ((desk (fun _ => 0) "n").after (overlapping.take 1)).entering?.map (fun c => (c.1, c.2.account.jid)) =
      some (0, { node := some "u", domain := "d" }) := by
    decide +kernel
  rw [hentering, Option.map_some, Option.some.injEq, Prod.mk.injEq] at hcall
  obtain ⟨rfl, hjid'⟩ := hcall
  refine ⟨_, call, during, success, hentering, hjid', hsucceeded, fun hnumber => ?_⟩
  have := hsame (hown.1 hnumber)
  rw [hjid'] at this
  revert this
  decide

end World

end XmppBosh.Client
