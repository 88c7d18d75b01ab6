import XmppBosh.Client.Schedule

/-!
# A run of a client program, turn by turn

* `Turn`, `World.turn` : what can happen next: the program asks for something, the task that has been ready
  the longest runs, what was deferred becomes ready, or it gets later;
* `World.after` : the state after some turns;
* `passes_settleWithin`, `passes_elapseWithin` : tasks and time are turns in the background;
* `run_eq_after` : a command and all that follows from it is turns.

What holds after every list of turns holds after every run.
-/

namespace XmppBosh.Client

inductive Turn where
  /-- The program asks for something. -/
  | command (c : Command)
  /-- The task that has been ready the longest runs. -/
  | task
  /-- What was deferred becomes ready. -/
  | refill
  /-- It gets later, and alarms become ready. -/
  | ripen (due : Nat)

/-- Whether a turn is none of the program's. -/
def Turn.isBackground : Turn → Bool
  | .command _ => false
  | .task | .refill | .ripen _ => true

namespace World

def turn (t : Turn) (w : World) : World :=
  match t with
  | .command c => (w.ask c).1
  | .task =>
    match w.queue with
    | [] => w
    | t :: rest => ({ w with queue := rest } : World).runTask t
  | .refill => { w with queue := w.queue ++ w.deferred, deferred := [] }
  | .ripen due => w.ripen due

def after (ts : List Turn) (w : World) : World := ts.foldl (fun w t => w.turn t) w

variable {w : World} {goal : Nat}

@[simp] theorem after_nil (w : World) : w.after [] = w := rfl

@[simp] theorem after_cons (t : Turn) (ts : List Turn) (w : World) :
    w.after (t :: ts) = (w.turn t).after ts := rfl

theorem after_append (ts us : List Turn) (w : World) : w.after (ts ++ us) = (w.after ts).after us :=
  List.foldl_append

theorem after_concat (ts : List Turn) (t : Turn) (w : World) : w.after (ts ++ [t]) = (w.after ts).turn t := by
  rw [after_append, after_cons, after_nil]

/-! ## What follows from a command -/

/-- Whether one state comes after another by turns in the background. -/
def Passes (w w' : World) : Prop := ∃ ts, w' = w.after ts ∧ ∀ t ∈ ts, t.isBackground

theorem Passes.refl (w : World) : Passes w w := ⟨[], rfl, List.forall_mem_nil _⟩

theorem Passes.turn {t : Turn} (ht : t.isBackground) {w' : World} (h : Passes (w.turn t) w') : Passes w w' := by
  obtain ⟨ts, rfl, hts⟩ := h
  exact ⟨t :: ts, rfl, List.forall_mem_cons.2 ⟨ht, hts⟩⟩

theorem Passes.trans {w' w'' : World} (h : Passes w w') (h' : Passes w' w'') : Passes w w'' := by
  obtain ⟨ts, rfl, hts⟩ := h
  obtain ⟨us, rfl, hus⟩ := h'
  exact ⟨ts ++ us, (after_append ts us w).symm, List.forall_mem_append.2 ⟨hts, hus⟩⟩

theorem passes_settleWithin (n : Nat) (w : World) : Passes w (settleWithin n w) := by
  induction n generalizing w with
  | zero => exact .refl w
  | succ n ih =>
    unfold settleWithin
    split
    · next t rest hqueue =>
      have hturn : w.turn .task = ({ w with queue := rest } : World).runTask t := by
        simp only [World.turn, hqueue]
      exact .turn (t := .task) rfl (hturn ▸ ih _)
    · next hqueue =>
      split
      · exact .refl w
      · have hturn : w.turn .refill = { w with queue := w.deferred, deferred := [] } := by
          simp only [World.turn, hqueue, List.nil_append]
        exact .turn (t := .refill) rfl (hturn ▸ ih _)

theorem ripen_of_lt (h : ∀ t ∈ w.timers, goal < t.due) : w.ripen goal = { w with now := goal } := by
  have hnone : w.timers.filter (fun t => decide (t.due ≤ goal)) = [] := by
    rw [List.filter_eq_nil_iff]
    intro t ht
    simpa using h t ht
  have hall : w.timers.filter (not ∘ fun t => decide (t.due ≤ goal)) = w.timers := by
    rw [List.filter_eq_self]
    intro t ht
    simpa using h t ht
  simp only [ripen, List.partition_eq_filter_filter, hnone, hall, List.map_nil, List.append_nil]

theorem passes_now (h : ∀ t ∈ w.timers, goal < t.due) : Passes w { w with now := goal } :=
  .turn (t := .ripen goal) rfl (ripen_of_lt h ▸ .refl _)

theorem passes_elapseWithin (goal n : Nat) (w : World) : Passes w (elapseWithin goal n w) := by
  induction n generalizing w with
  | zero => exact .refl w
  | succ n ih =>
    unfold elapseWithin
    split
    · next due hdue =>
      split
      · exact .turn (t := .ripen due) rfl ((passes_settleWithin patience _).trans (ih _))
      · next hlate =>
        refine passes_now fun t ht => ?_
        have hle : due ≤ t.due := (List.min?_eq_some_iff.1 hdue).2 _ (List.mem_map_of_mem ht)
        omega
    · next hnone =>
      have htimers : w.timers = [] := by simpa [nextDue?] using hnone
      exact passes_now (by simp [htimers])

/-- **A run is turns.** A command and all that follows from it is a turn of the program and some in the
background. -/
theorem run_eq_after (c : Command) (w : World) :
    ∃ ts, (w.run c).1 = w.after (.command c :: ts) ∧ ∀ t ∈ ts, t.isBackground := by
  have hsettled : Passes (w.ask c).1 (w.ask c).1.settle := passes_settleWithin _ _
  have helapsed : Passes (w.ask c).1 (w.run c).1 := by
    unfold run
    cases c with
    | advance ms => exact hsettled.trans (passes_elapseWithin _ _ _)
    | _ => exact hsettled
  exact helapsed

end World

end XmppBosh.Client
