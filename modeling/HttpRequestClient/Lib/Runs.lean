import Mathlib.Data.List.Induction

/-!
# Runs of a system

A system is a step function on states and events.  An event that cannot
happen in a state leaves the state as it is.

`Meets` says of a run that each of its events finds a state in which a
condition holds.  `run_keeps` is the rule for invariants: what holds at the
start and is kept by every such event holds at the end of the run, and so in
every state that the run goes through.
-/

namespace Runs

variable {σ ε : Type} (step : σ → ε → σ)

def run (state : σ) (events : List ε) : σ := events.foldl step state

@[simp] theorem run_nil (state : σ) : run step state [] = state := rfl

@[simp] theorem run_cons (state : σ) (event : ε) (events : List ε) :
    run step state (event :: events) = run step (step state event) events := rfl

@[simp] theorem run_append (state : σ) (events later : List ε) :
    run step state (events ++ later) = run step (run step state events) later :=
  List.foldl_append

/-- Every event meets the condition in the state it finds. -/
def Meets (ok : σ → ε → Prop) : σ → List ε → Prop
  | _, [] => True
  | state, event :: events => ok state event ∧ Meets ok (step state event) events

instance decidableMeets (ok : σ → ε → Prop) [∀ state event, Decidable (ok state event)] :
    ∀ state events, Decidable (Meets step ok state events)
  | _, [] => inferInstanceAs (Decidable True)
  | state, event :: events =>
    have := decidableMeets ok (step state event) events
    inferInstanceAs (Decidable (ok state event ∧ Meets step ok (step state event) events))

variable {step} {ok : σ → ε → Prop}

theorem meets_append {state : σ} {events later : List ε} :
    Meets step ok state (events ++ later) ↔
      Meets step ok state events ∧ Meets step ok (run step state events) later := by
  induction events generalizing state with
  | nil => simp [Meets]
  | cons event events ih =>
    rw [List.cons_append, Meets, Meets, ih, run_cons, and_assoc]

theorem meets_snoc {state : σ} {events : List ε} {event : ε} :
    Meets step ok state (events ++ [event]) ↔
      Meets step ok state events ∧ ok (run step state events) event := by
  rw [meets_append]
  simp [Meets]

/-- Every event meets the condition in the state that the events before it
lead to. -/
theorem meets_iff_getElem? {state : σ} {events : List ε} :
    Meets step ok state events ↔
      ∀ n event, events[n]? = some event → ok (run step state (events.take n)) event := by
  induction events generalizing state with
  | nil => simp [Meets]
  | cons event events ih =>
    rw [Meets, ih]
    constructor
    · rintro ⟨hfirst, hrest⟩ n later hlater
      cases n with
      | zero =>
        cases hlater
        exact hfirst
      | succ n => exact hrest n later hlater
    · intro h
      exact ⟨h 0 event rfl, fun n later hlater => h (n + 1) later hlater⟩

/-- What every step keeps, every run keeps. -/
theorem run_keeps {P : σ → Prop}
    (hstep : ∀ state event, P state → ok state event → P (step state event)) {state : σ}
    {events : List ε} (hmeets : Meets step ok state events) (h : P state) :
    P (run step state events) := by
  induction events generalizing state with
  | nil => exact h
  | cons event events ih => exact ih hmeets.2 (hstep state event h hmeets.1)

/-- What every event meets may be shown with an invariant. -/
theorem meets_of_keeps {P : σ → Prop} {ok' : σ → ε → Prop}
    (hstep : ∀ state event, P state → ok state event → P (step state event))
    (hok : ∀ state event, P state → ok state event → ok' state event) {state : σ}
    {events : List ε} (hmeets : Meets step ok state events) (h : P state) :
    Meets step ok' state events := by
  induction events generalizing state with
  | nil => trivial
  | cons event events ih =>
    exact ⟨hok state event h hmeets.1, ih hmeets.2 (hstep state event h hmeets.1)⟩

/-- When the invariant says what is good, and an event that does not meet the
condition leads to a state that is not good, a run is good all along if and
only if every event meets the condition. -/
theorem meets_iff_forall_take (P Good : σ → Prop)
    (hstep : ∀ state event, P state → ok state event → P (step state event))
    (hgood : ∀ state, P state → Good state)
    (hfails : ∀ state event, P state → Good (step state event) → ok state event) {state : σ}
    {events : List ε} (h : P state) :
    (∀ n, Good (run step state (events.take n))) ↔ Meets step ok state events := by
  induction events generalizing state with
  | nil => simpa [Meets] using hgood state h
  | cons event events ih =>
    rw [Meets]
    constructor
    · intro hall
      have hok : ok state event := hfails state event h (by simpa using hall 1)
      exact ⟨hok, (ih (hstep state event h hok)).mp fun n => hall (n + 1)⟩
    · rintro ⟨hok, hrest⟩ n
      cases n with
      | zero => exact hgood state h
      | succ n => exact (ih (hstep state event h hok)).mpr hrest n

/-- A step that keeps its invariant in every state. -/
theorem run_invariant {P : σ → Prop}
    (hstep : ∀ state event, P state → P (step state event)) (events : List ε) {state : σ}
    (h : P state) : P (run step state events) := by
  induction events generalizing state with
  | nil => exact h
  | cons event events ih => exact ih (hstep state event h)

end Runs
