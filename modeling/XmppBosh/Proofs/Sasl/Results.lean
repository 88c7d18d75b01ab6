import XmppBosh.Proofs.Sasl.Attempt

/-!
# Which attempt a result belongs to

Attempts are numbered as they are begun, and a result carries the number of the attempt that was under
way when its stanza came in.

* `Operated`, `operated` : what an operation can do to the attempt under way;
* `Tally`, `tally` : the attempts that were begun and the results that were announced, with their numbers;
* `Tally.Sound`, `sound_tally` : an attempt has no result while it is under way, and one result at most;
* `Operation.isRefusal` : the stanza that is announced without an attempt as well;
* `results_numbered` : one result for each attempt, and when every result has an attempt;
* `results`, `first_result` : the results in order, and the operation that the next one comes from;
* `Succeeds`, `succeeds_of_mem_results` : what a success says that is announced after a request.
-/

namespace XmppBosh.Sasl

open Xml

def Operation.isRefusal : Operation → Bool
  | .request .. => false
  | .receive stanza => stanza.ns = Namespace.sasl ∧ stanza.name = "failure"

namespace Negotiation

/-! ## One operation -/

/-- What an operation can do: it begins an attempt, it leaves things as they are, or it ends the attempt with a
result. Only a refusal announces a result where there was no attempt to end. -/
inductive Operated (o : Operation) (attempt : Option Attempt) (reaction : Reaction) : Prop where
  | begun (begins : begins o = true) (going : reaction.attempt.isSome) (silent : reaction.result = none)
  | kept (begins : begins o = false) (same : reaction.attempt.isSome = attempt.isSome)
      (silent : reaction.result = none)
  | ended (begins : begins o = false) (gone : reaction.attempt = none) (result : Result)
      (announced : reaction.result = some result) (owned : attempt.isSome ∨ o.isRefusal)

variable {o : Operation} {ops : List Operation}

theorem operated_request (account : Account) (mechanisms : Element) (nonce : Except MechanismError String)
    (attempt : Option Attempt) : Operated (.request account mechanisms nonce) attempt
      (operate (.request account mechanisms nonce) attempt) := by
  cases hrequest : request account mechanisms nonce with
  | ok started =>
    have hbegins : begins (.request account mechanisms nonce) = true := by
      simp [begins, hrequest, Except.toBool]
    refine .begun hbegins ?_ ?_ <;> simp [operate, hrequest]
  | error e =>
    have hbegins : begins (.request account mechanisms nonce) = false := by
      simp [begins, hrequest, Except.toBool]
    refine .kept hbegins ?_ ?_ <;> simp [operate, hrequest]

theorem operated_challenge (stanza : Element) (current : Attempt) :
    Operated (.receive stanza) (some current) (challenge current stanza.text) := by
  unfold challenge
  split
  · exact .ended rfl rfl _ rfl (.inl rfl)
  · split
    · exact .ended rfl rfl _ rfl (.inl rfl)
    · exact .kept rfl rfl rfl

theorem operated_success (stanza : Element) (current : Attempt) :
    Operated (.receive stanza) (some current) (success current stanza.text) := by
  unfold success
  split
  · exact .ended rfl rfl _ rfl (.inl rfl)
  · split <;> exact .ended rfl rfl _ rfl (.inl rfl)

theorem operated_receive (stanza : Element) (attempt : Option Attempt) :
    Operated (.receive stanza) attempt (receive attempt stanza) := by
  unfold receive
  split
  · exact .kept rfl rfl rfl
  · next hns =>
    split
    · next hname =>
      have hrefusal : (Operation.receive stanza).isRefusal := by
        simp [Operation.isRefusal, not_not.1 hns, hname]
      exact .ended rfl rfl _ rfl (.inr hrefusal)
    · cases attempt with
      | none => exact .kept rfl rfl rfl
      | some current =>
        simp only
        split
        · exact operated_challenge stanza current
        · split
          · exact operated_success stanza current
          · exact .kept rfl rfl rfl

theorem operated (o : Operation) (attempt : Option Attempt) : Operated o attempt (operate o attempt) := by
  cases o with
  | request account mechanisms nonce => exact operated_request account mechanisms nonce attempt
  | receive stanza => exact operated_receive stanza attempt

/-- A refusal is announced whether or not there is an attempt. -/
theorem isSome_result_of_isRefusal (h : o.isRefusal) (attempt : Option Attempt) :
    (operate o attempt).result.isSome := by
  cases o with
  | request => cases h
  | receive stanza =>
    obtain ⟨hns, hname⟩ : stanza.ns = Namespace.sasl ∧ stanza.name = "failure" := by
      simpa [Operation.isRefusal] using h
    simp [operate, receive, hns, hname, failure]

/-- Nothing but a refusal is announced where no attempt is under way. -/
theorem isSome_result_none_iff : (operate o none).result.isSome ↔ o.isRefusal := by
  refine ⟨fun h => ?_, fun h => isSome_result_of_isRefusal h none⟩
  cases operated o none with
  | begun _ _ hsilent => simp [hsilent] at h
  | kept _ _ hsilent => simp [hsilent] at h
  | ended _ _ _ _ howned => simpa using howned

/-! ## The tally -/

/-- What has come of the attempts so far. -/
structure Tally where
  /-- The attempt under way, which is the one begun last. -/
  attempt : Option Attempt := none
  /-- How many attempts were begun. -/
  begun : Nat := 0
  /-- The results in order, each with the number of the attempt that was under way, if one was. -/
  announced : List (Option Nat × Result) := []

def Tally.number? (t : Tally) : Option Nat :=
  if t.attempt.isSome then some t.begun else none

def Tally.take (t : Tally) (o : Operation) : Tally where
  attempt := (operate o t.attempt).attempt
  begun := if begins o then t.begun + 1 else t.begun
  announced := t.announced ++ (operate o t.attempt).result.toList.map (t.number?, ·)

def tally (ops : List Operation) : Tally :=
  ops.foldl Tally.take {}

/-- The numbers of the attempts that have a result, in the order of the results. -/
def Tally.settled (t : Tally) : List Nat :=
  t.announced.filterMap Prod.fst

theorem tally_concat (ops : List Operation) (o : Operation) : tally (ops ++ [o]) = (tally ops).take o := by
  simp [tally]

theorem attempt_tally (ops : List Operation) : (tally ops).attempt = attemptAfter ops := by
  induction ops using List.reverseRecOn with
  | nil => rfl
  | append_singleton ops o ih => rw [tally_concat, attemptAfter_concat, Tally.take, ih]

theorem begun_tally (ops : List Operation) : (tally ops).begun = ops.countP begins := by
  induction ops using List.reverseRecOn with
  | nil => rfl
  | append_singleton ops o ih =>
    rw [tally_concat, List.countP_append, List.countP_singleton, Tally.take, ih]
    cases begins o <;> rfl

/-- An attempt has no result while it is under way, and one result at most. -/
structure Tally.Sound (t : Tally) : Prop where
  pairwise : t.settled.Pairwise (· < ·)
  begun : ∀ n ∈ t.settled, 1 ≤ n ∧ n ≤ t.begun
  unsettled : t.attempt.isSome → 1 ≤ t.begun ∧ ∀ n ∈ t.settled, n < t.begun

theorem Tally.settled_take_of_silent {t : Tally} (h : (operate o t.attempt).result = none) :
    (t.take o).settled = t.settled := by
  simp [settled, take, h]

theorem Tally.settled_take_of_result {t : Tally} {result : Result}
    (h : (operate o t.attempt).result = some result) :
    (t.take o).settled = t.settled ++ t.number?.toList := by
  cases hnumber : t.number? <;> simp [settled, take, h, hnumber]

theorem Tally.Sound.take {t : Tally} (h : t.Sound) (o : Operation) : (t.take o).Sound := by
  cases operated o t.attempt with
  | begun hbegins hgoing hsilent =>
    have hsettled := settled_take_of_silent hsilent
    have hbegun : (t.take o).begun = t.begun + 1 := by simp [Tally.take, hbegins]
    refine ⟨hsettled ▸ h.pairwise, ?_, fun _ => ⟨by omega, ?_⟩⟩
    · intro n hn
      have := h.begun n (hsettled ▸ hn)
      omega
    · intro n hn
      have := h.begun n (hsettled ▸ hn)
      omega
  | kept hbegins hsame hsilent =>
    have hsettled := settled_take_of_silent hsilent
    have hbegun : (t.take o).begun = t.begun := by simp [Tally.take, hbegins]
    refine ⟨hsettled ▸ h.pairwise, ?_, ?_⟩
    · rw [hsettled, hbegun]
      exact h.begun
    · intro hgoing
      rw [hsettled, hbegun]
      exact h.unsettled (hsame ▸ hgoing)
  | ended hbegins hgone result hresult howned =>
    have hsettled := settled_take_of_result hresult
    have hbegun : (t.take o).begun = t.begun := by simp [Tally.take, hbegins]
    have hgone : (t.take o).attempt = none := hgone
    -- The attempt that ends is the last one, and the results before are of earlier ones.
    by_cases hgoing : t.attempt.isSome
    · obtain ⟨hone, hless⟩ := h.unsettled hgoing
      have hnumber : t.number?.toList = [t.begun] := by simp [Tally.number?, hgoing]
      rw [hnumber] at hsettled
      refine ⟨?_, ?_, by simp [hgone]⟩
      · rw [hsettled, List.pairwise_append]
        exact ⟨h.pairwise, List.pairwise_singleton _ _, by simpa using hless⟩
      · rw [hsettled, hbegun, List.forall_mem_append, List.forall_mem_singleton]
        exact ⟨h.begun, hone, Nat.le_refl _⟩
    · have hnumber : t.number?.toList = [] := by simp [Tally.number?, hgoing]
      rw [hnumber, List.append_nil] at hsettled
      refine ⟨hsettled ▸ h.pairwise, ?_, by simp [hgone]⟩
      rw [hsettled, hbegun]
      exact h.begun

theorem sound_tally (ops : List Operation) : (tally ops).Sound := by
  induction ops using List.reverseRecOn with
  | nil => exact ⟨.nil, List.forall_mem_nil _, nofun⟩
  | append_singleton ops o ih =>
    rw [tally_concat]
    exact ih.take o

/-! ## Results without an attempt -/

/-- Every result that was announced ended an attempt. -/
def Tally.Owned (t : Tally) : Prop :=
  ∀ x ∈ t.announced, x.1.isSome

/-- Every refusal came in while an attempt was under way. -/
def Solicited (ops : List Operation) : Prop :=
  ∀ before o after, ops = before ++ o :: after → o.isRefusal → (attemptAfter before).isSome

theorem solicited_concat : Solicited (ops ++ [o]) ↔
    Solicited ops ∧ (o.isRefusal → (attemptAfter ops).isSome) := by
  constructor
  · intro h
    refine ⟨fun before p after heq => h before p (after ++ [o]) (by simp [heq]), h ops o [] rfl⟩
  · rintro ⟨hops, ho⟩ before p after heq
    rcases List.eq_nil_or_concat after with rfl | ⟨rest, last, rfl⟩
    · obtain ⟨rfl, rfl⟩ := List.append_singleton_inj.1 heq
      exact ho
    · rw [List.concat_eq_append, ← List.cons_append, ← List.append_assoc] at heq
      exact hops before p rest (List.append_singleton_inj.1 heq).1

theorem Tally.owned_take {t : Tally} : (t.take o).Owned ↔
    t.Owned ∧ ((operate o t.attempt).result.isSome → t.attempt.isSome) := by
  rw [Owned, Tally.take, List.forall_mem_append]
  refine and_congr_right' ?_
  cases (operate o t.attempt).result <;> simp [Tally.number?]

theorem owned_tally_iff (ops : List Operation) : (tally ops).Owned ↔ Solicited ops := by
  induction ops using List.reverseRecOn with
  | nil => exact iff_of_true (List.forall_mem_nil _) (by simp [Solicited])
  | append_singleton ops o ih =>
    rw [tally_concat, Tally.owned_take, solicited_concat, ih, attempt_tally]
    refine and_congr_right' ?_
    cases hattempt : attemptAfter ops with
    | none => rw [isSome_result_none_iff]
    | some attempt => simp

/-- **One result for each attempt.** The numbers of the attempts that have a result increase strictly, so
that no attempt has two, and an attempt that is under way has none. An attempt that is under way ends with
a stanza exactly when the stanza is announced. Where none is under way, exactly a refusal is announced, so
that every result belongs to an attempt exactly when every refusal came in during one. -/
theorem results_numbered (ops : List Operation) :
    (tally ops).begun = ops.countP begins ∧
    (tally ops).settled.Pairwise (· < ·) ∧
    (∀ n ∈ (tally ops).settled, 1 ≤ n ∧ n ≤ (tally ops).begun) ∧
    ((attemptAfter ops).isSome → ∀ n ∈ (tally ops).settled, n < (tally ops).begun) ∧
    (∀ o, (attemptAfter ops).isSome →
      ((attemptAfter (ops ++ [o])) = none ↔ (operate o (attemptAfter ops)).result.isSome)) ∧
    (∀ o, attemptAfter ops = none →
      ((operate o (attemptAfter ops)).result.isSome ↔ o.isRefusal)) ∧
    ((tally ops).Owned ↔ Solicited ops) := by
  have hsound := sound_tally ops
  refine ⟨begun_tally ops, hsound.pairwise, hsound.begun, ?_, ?_, ?_, owned_tally_iff ops⟩
  · intro hgoing
    exact (hsound.unsettled (attempt_tally ops ▸ hgoing)).2
  · intro o hgoing
    rw [attemptAfter_concat]
    cases operated o (attemptAfter ops) with
    | begun _ hbegun hsilent => simp [hsilent, Option.isSome_iff_ne_none.1 hbegun]
    | kept _ hsame hsilent => simp [hsilent, Option.isSome_iff_ne_none.1 (hsame ▸ hgoing)]
    | ended _ hgone _ hresult => simp [hgone, hresult]
  · intro o hnone
    rw [hnone, isSome_result_none_iff]

/-- A challenge that cannot be read, and the refusal that a server sends for what it gets in return. -/
def garbled : List Operation :=
  [.request user offer (.ok "n"), .receive (.make "challenge" Namespace.sasl [] "!"),
    .receive (.make "failure" Namespace.sasl [] "")]

/-- The refusal after an attempt that broke down is announced a second time, as the result of no attempt. -/
theorem not_owned_of_garbled : attemptAfter (garbled.take 2) = none ∧
    (tally garbled).announced =
      [(some 1, .error (.mechanism .cannotDecodeChallenge)), (none, .failed none)] ∧
    (tally garbled).settled.Pairwise (· < ·) ∧ ¬ (tally garbled).Owned := by
  obtain ⟨-, hpairwise, -, -, -, -, howned⟩ := results_numbered garbled
  refine ⟨by decide +kernel, by decide +kernel, hpairwise, ?_⟩
  rw [howned]
  intro h
  have := h (garbled.take 2) _ [] rfl rfl
  revert this
  decide +kernel

/-! ## Whose result it is -/

def results (ops : List Operation) : List Result := (tally ops).announced.map Prod.snd

theorem results_concat (ops : List Operation) (o : Operation) :
    results (ops ++ [o]) = results ops ++ (operate o (attemptAfter ops)).result.toList := by
  rw [results, tally_concat, Tally.take, attempt_tally, List.map_append, results, List.map_map]
  congr 1
  exact List.map_id _

theorem results_prefix (ops since : List Operation) : results ops <+: results (ops ++ since) := by
  induction since using List.reverseRecOn with
  | nil => simp
  | append_singleton since o ih =>
    rw [← List.append_assoc, results_concat]
    exact ih.trans (List.prefix_append _ _)

/-- The first result after some operations, and the operation that it comes with. -/
theorem first_result {asked since : List Operation} {result : Result} {more : List Result}
    (h : results (asked ++ since) = results asked ++ result :: more) :
    ∃ during o rest, since = during ++ o :: rest ∧ results (asked ++ during) = results asked ∧
      (operate o (attemptAfter (asked ++ during))).result = some result := by
  induction since using List.reverseRecOn generalizing more with
  | nil =>
    rw [List.append_nil, List.self_eq_append_right] at h
    cases h
  | append_singleton since o ih =>
    obtain ⟨new, hnew⟩ := results_prefix asked since
    rw [← List.append_assoc, results_concat, ← hnew, List.append_assoc, List.append_cancel_left_eq] at h
    cases new with
    | nil =>
      rw [List.append_nil] at hnew
      refine ⟨since, o, [], rfl, hnew.symm, ?_⟩
      cases hresult : (operate o (attemptAfter (asked ++ since))).result with
      | none => simp [hresult] at h
      | some r =>
        rw [hresult] at h
        cases h
        rfl
    | cons r new =>
      obtain ⟨rfl, -⟩ := List.cons.inj h
      obtain ⟨during, o', rest, rfl, hsilent, hresult⟩ := ih hnew.symm
      exact ⟨during, o', rest ++ [o], by simp, hsilent, hresult⟩

/-- An attempt keeps its address. -/
theorem jid_operate {a a' : Attempt} (ho : begins o = false) (h : (operate o (some a)).attempt = some a') :
    a'.jid = a.jid := by
  cases o with
  | request account mechanisms nonce =>
    cases hrequest : request account mechanisms nonce with
    | ok started => simp [begins, hrequest, Except.toBool] at ho
    | error e =>
      simp only [operate, hrequest, Option.some.injEq] at h
      rw [h]
  | receive stanza =>
    simp only [operate, receive] at h
    split at h
    · cases h
      rfl
    · split at h
      · cases h
      · split at h
        · unfold challenge at h
          split at h
          · cases h
          · split at h
            · cases h
            · cases h
              rfl
        · split at h
          · rw [attempt_success] at h
            cases h
          · cases h
            rfl

/-- Until another one is begun, an attempt is for the account that it was begun for. -/
theorem jid_attemptAfter {account : Account} {mechanisms : Element} {nonce : Except MechanismError String}
    {during : List Operation} {a : Attempt} (hbegins : begins (.request account mechanisms nonce))
    (hduring : ∀ o ∈ during, begins o = false)
    (ha : attemptAfter (ops ++ .request account mechanisms nonce :: during) = some a) : a.jid = account.jid := by
  induction during using List.reverseRecOn generalizing a with
  | nil =>
    cases hrequest : request account mechanisms nonce with
    | ok started =>
      rw [attemptAfter_concat] at ha
      simp only [operate, hrequest, Option.some.injEq] at ha
      obtain ⟨mechanism, -, hbegun⟩ := Scram.bind_ok hrequest
      cases hbegun
      rw [← ha]
    | error e => simp [begins, hrequest, Except.toBool] at hbegins
  | append_singleton during o ih =>
    rw [List.forall_mem_append, List.forall_mem_singleton] at hduring
    rw [← List.cons_append, ← List.append_assoc, attemptAfter_concat] at ha
    cases hbefore : attemptAfter (ops ++ .request account mechanisms nonce :: during) with
    | none =>
      rw [hbefore] at ha
      cases operated o none with
      | begun hbegun => simp [hduring.2] at hbegun
      | kept _ hsame => simp [ha] at hsame
      | ended _ hgone => simp [ha] at hgone
    | some b =>
      rw [hbefore] at ha
      exact (jid_operate hduring.2 ha).trans (ih hduring.1 hbefore)

theorem number?_eq_some_iff {asked during : List Operation} (h : (attemptAfter (asked ++ during)).isSome) :
    (tally (asked ++ during)).number? = some (tally asked).begun ↔ ∀ o ∈ during, ¬ begins o := by
  rw [Tally.number?, attempt_tally, if_pos h, Option.some.injEq, begun_tally, begun_tally, List.countP_append,
    Nat.add_eq_left, List.countP_eq_zero]

/-- A success ends an attempt, and is for its address. -/
theorem succeeded_attempt {attempt : Option Attempt} {jid : Jid}
    (h : (operate o attempt).result = some (.succeeded jid)) : ∃ a, attempt = some a ∧ jid = a.jid := by
  cases attempt with
  | some a =>
    obtain ⟨-, -, -, hjid⟩ := operate_succeeded h
    exact ⟨a, rfl, hjid⟩
  | none =>
    have hsome : (operate o none).result.isSome := by rw [h]; rfl
    have hrefusal := isSome_result_none_iff.1 hsome
    cases o with
    | request => cases hrefusal
    | receive stanza =>
      obtain ⟨hns, hname⟩ : stanza.ns = Namespace.sasl ∧ stanza.name = "failure" := by
        simpa [Operation.isRefusal] using hrefusal
      simp [operate, receive, hns, hname, failure] at h

/-- Only a request leads to an attempt where there is none. -/
theorem attempt_operate_none (ho : begins o = false) : (operate o none).attempt = none := by
  cases operated o none with
  | begun hbegins => simp [ho] at hbegins
  | kept _ hsame => simpa using hsame
  | ended _ hgone => exact hgone

/-! ## A request and the stanzas since -/

/-- Every result is that of an operation. -/
theorem operation_of_mem_results {result : Result} (h : result ∈ results ops) : ∃ before o after,
    ops = before ++ o :: after ∧ (operate o (attemptAfter before)).result = some result := by
  induction ops using List.reverseRecOn with
  | nil => cases h
  | append_singleton ops o ih =>
    rw [results_concat, List.mem_append, Option.mem_toList] at h
    rcases h with h | h
    · obtain ⟨before, o', after, rfl, hresult⟩ := ih h
      exact ⟨before, o', after ++ [o], by simp, hresult⟩
    · exact ⟨ops, o, [], rfl, h⟩

theorem result_request (account : Account) (mechanisms : Element) (nonce : Except MechanismError String)
    (attempt : Option Attempt) : (operate (.request account mechanisms nonce) attempt).result = none := by
  simp only [operate]
  split <;> rfl

/-- A success ends the attempt that was asked for, after some stanzas. With SCRAM it shows the server's
signature. -/
def Succeeds (account : Account) (mechanisms : Element) (nonce : Except MechanismError String)
    (stanzas : List Element) (success : Element) : Prop :=
  let attempt := attemptAfter (.request account mechanisms nonce :: stanzas.map .receive)
  begins (.request account mechanisms nonce) ∧
    (operate (.receive success) attempt).result = some (.succeeded account.jid) ∧
    ∀ a s, attempt = some a → a.mechanism = .scram s → ∃ password own, nonce = .ok own ∧
      account.secret = .ok password ∧
      Scram.Proven Operation.call? (exchange account password own) ((stanzas ++ [success]).map .receive)

theorem begins_of_mem_receive {stanzas : List Element} {o : Operation} (ho : o ∈ stanzas.map Operation.receive) :
    begins o = false := by
  obtain ⟨stanza, -, rfl⟩ := List.mem_map.1 ho
  rfl

/-- A request and the stanzas since are all that an attempt has come from. -/
theorem latest_request {account account' : Account} {mechanisms : Element} {nonce : Except MechanismError String}
    {stanzas : List Element} {password own : String} {during : List Operation}
    (h : Latest (.request account mechanisms nonce :: stanzas.map .receive) account' password own during) :
    account' = account ∧ nonce = .ok own ∧ account.secret = .ok password ∧ during = stanzas.map .receive := by
  obtain ⟨before, mechanisms', heq, hbegins, hsecret, -⟩ := h
  cases before with
  | nil =>
    simp only [List.nil_append, List.cons.injEq, Operation.request.injEq] at heq
    obtain ⟨⟨rfl, -, rfl⟩, rfl⟩ := heq
    exact ⟨rfl, rfl, hsecret, rfl⟩
  | cons o before =>
    have hmem : Operation.request account' mechanisms' (.ok own) ∈ stanzas.map Operation.receive := by
      rw [(List.cons.inj heq).2]
      simp
    rw [begins_of_mem_receive hmem] at hbegins
    cases hbegins

/-- Every success that is announced after a request is for its account. -/
theorem succeeds_of_mem_results {jid : Jid} {account : Account} {mechanisms : Element}
    {nonce : Except MechanismError String} {stanzas : List Element}
    (hbegins : begins (.request account mechanisms nonce))
    (h : .succeeded jid ∈ results (.request account mechanisms nonce :: stanzas.map .receive)) :
    jid = account.jid ∧ ∃ before success after, stanzas = before ++ success :: after ∧
      Succeeds account mechanisms nonce before success := by
  obtain ⟨before, o, after, heq, hresult⟩ := operation_of_mem_results h
  cases before with
  | nil =>
    obtain ⟨rfl, -⟩ := List.cons.inj heq
    rw [result_request] at hresult
    cases hresult
  | cons _ before =>
    obtain ⟨rfl, hafter⟩ := List.cons.inj heq
    obtain ⟨stanzas₁, rest, rfl, rfl, hrest⟩ := List.map_eq_append_iff.1 hafter
    obtain ⟨success, stanzas₂, rfl, rfl, rfl⟩ := List.map_eq_cons_iff.1 hrest
    obtain ⟨a, ha, rfl⟩ := succeeded_attempt hresult
    have hjid : a.jid = account.jid := by
      rw [← List.nil_append (_ :: _)] at ha
      exact jid_attemptAfter hbegins (fun _ => begins_of_mem_receive) ha
    refine ⟨hjid, stanzas₁, success, stanzas₂, rfl, hbegins, hjid ▸ hresult, fun a' s ha' hs => ?_⟩
    obtain rfl : a = a' := Option.some.inj (ha.symm.trans ha')
    obtain ⟨account', password, own, during, hunder⟩ := underway ha hs
    obtain ⟨rfl, hnonce, hsecret, hduring⟩ := latest_request hunder.latest
    rw [ha] at hresult
    have hproven := (hunder.succeeded hs hresult).2
    refine ⟨password, own, hnonce, hsecret, ?_⟩
    rw [List.map_append, ← hduring]
    exact hproven

end Negotiation

end XmppBosh.Sasl
