import Mathlib.Data.List.Basic

/-!
# Machines with guarded steps

A step of a guarded machine is enabled or not, and a run is a list of steps that were all
enabled where they were taken. The two rules are the invariant of a run and the bound on
its length by a measure; the steps that may raise the measure have a price.
-/
namespace Seer.Lib.Machine

variable {σ α : Type*} {step : σ → α → Option σ}

/-- The state after the steps; `none` if one of them is not enabled. -/
def run (step : σ → α → Option σ) (state : σ) (steps : List α) : Option σ :=
  match steps with
  | [] => some state
  | next :: later => (step state next).bind (run step · later)

@[simp]
theorem run_nil (state : σ) : run step state [] = some state := rfl

theorem run_cons {state last : σ} {next : α} {later : List α} :
    run step state (next :: later) = some last ↔
      ∃ middle, step state next = some middle ∧ run step middle later = some last := by
  rw [run, Option.bind_eq_some_iff]

theorem run_append {state last : σ} {earlier later : List α} :
    run step state (earlier ++ later) = some last ↔
      ∃ middle, run step state earlier = some middle ∧ run step middle later = some last := by
  induction earlier generalizing state with
  | nil => simp
  | cons next rest ih =>
    rw [List.cons_append, run_cons]
    constructor
    · rintro ⟨middle, first, others⟩
      obtain ⟨between, here, there⟩ := ih.mp others
      exact ⟨between, run_cons.mpr ⟨middle, first, here⟩, there⟩
    · rintro ⟨between, here, there⟩
      obtain ⟨middle, first, others⟩ := run_cons.mp here
      exact ⟨middle, first, ih.mpr ⟨between, others, there⟩⟩

/-- What every allowed step keeps holds at the end of a run of allowed steps. -/
theorem run_invariant {inv : σ → Prop} {allowed : α → Prop}
    (keeps : ∀ state next after, inv state → allowed next → step state next = some after → inv after)
    {state last : σ} {steps : List α} (runs : run step state steps = some last)
    (only : ∀ next ∈ steps, allowed next) (start : inv state) : inv last := by
  induction steps generalizing state with
  | nil =>
    cases runs
    exact start
  | cons next later ih =>
    obtain ⟨middle, first, others⟩ := run_cons.mp runs
    have kept := keeps state next middle start (only next List.mem_cons_self) first
    exact ih others (fun other member => only other (List.mem_cons_of_mem _ member)) kept

/-- The same for what relates a state to the steps that have led to it. -/
theorem run_history {inv : List α → σ → Prop}
    (keeps : ∀ done state next after, inv done state → step state next = some after →
      inv (done ++ [next]) after)
    {done : List α} {state last : σ} {steps : List α} (runs : run step state steps = some last)
    (start : inv done state) : inv (done ++ steps) last := by
  induction steps generalizing done state with
  | nil =>
    cases runs
    rw [List.append_nil]
    exact start
  | cons next later ih =>
    obtain ⟨middle, first, others⟩ := run_cons.mp runs
    have kept := ih others (keeps done state next middle start first)
    rwa [List.append_assoc] at kept

/-- A run takes no more steps than the measure it starts with and its costly steps allow. -/
theorem run_bounded {inv : σ → Prop} {allowed : α → Prop} (measure : σ → Nat) (costly : α → Bool)
    (price : Nat)
    (keeps : ∀ state next after, inv state → allowed next → step state next = some after → inv after)
    (lowers : ∀ state next after, inv state → allowed next → step state next = some after →
      measure after + 1 ≤ measure state + if costly next then price else 0)
    {state last : σ} {steps : List α} (runs : run step state steps = some last)
    (only : ∀ next ∈ steps, allowed next) (start : inv state) :
    steps.length + measure last ≤ measure state + price * steps.countP costly := by
  induction steps generalizing state with
  | nil =>
    cases runs
    simp
  | cons next later ih =>
    obtain ⟨middle, first, others⟩ := run_cons.mp runs
    have here := only next List.mem_cons_self
    have rest := ih others (fun other member => only other (List.mem_cons_of_mem _ member))
      (keeps state next middle start here first)
    have lower := lowers state next middle start here first
    rw [List.length_cons, List.countP_cons, Nat.mul_add]
    by_cases paid : costly next = true
    · rw [if_pos paid] at lower ⊢
      omega
    · rw [if_neg paid] at lower ⊢
      omega

end Seer.Lib.Machine
