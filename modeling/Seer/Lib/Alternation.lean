import Mathlib.Data.List.Chain

/-!
# Alternating edges

A list of edges, oldest first, of something that is closed at the start: `true`
opens it and `false` closes it. It alternates when no edge repeats the state it
is met in.
-/
namespace Seer.Lib

/-- Whether the edges leave it open. -/
def Opened (edges : List Bool) : Bool := edges.getLastD false

def Alternating (edges : List Bool) : Prop := (false :: edges).IsChain (· ≠ ·)

instance (edges : List Bool) : Decidable (Alternating edges) :=
  inferInstanceAs (Decidable (List.IsChain _ _))

@[simp] theorem opened_nil : Opened [] = false := rfl

@[simp] theorem opened_concat (edges : List Bool) (edge : Bool) :
    Opened (edges ++ [edge]) = edge := by
  simp [Opened]

theorem alternating_nil : Alternating [] := List.isChain_singleton false

/-- One more edge must change the state. -/
theorem alternating_concat (edges : List Bool) (edge : Bool) :
    Alternating (edges ++ [edge]) ↔ Alternating edges ∧ edge ≠ Opened edges := by
  unfold Alternating Opened
  rw [← List.cons_append, List.isChain_append]
  simp only [List.isChain_singleton, true_and, List.getLast?_cons, List.head?_cons,
    Option.mem_def, Option.some.injEq, forall_eq', ne_comm, List.getLastD_eq_getLast?]

theorem Alternating.concat {edges : List Bool} (alternating : Alternating edges) {edge : Bool}
    (changes : edge = !Opened edges) : Alternating (edges ++ [edge]) := by
  rw [alternating_concat]
  exact ⟨alternating, by simp [changes]⟩

theorem mem_of_opened {edges : List Bool} (opened : Opened edges = true) : true ∈ edges := by
  cases edges using List.reverseRecOn with
  | nil => cases opened
  | append_singleton earlier last =>
    rw [opened_concat] at opened
    simp [opened]

/-- An edge that closes comes after one that opened. -/
theorem Alternating.opened_before {earlier later : List Bool}
    (alternating : Alternating (earlier ++ false :: later)) : true ∈ earlier := by
  have front : Alternating (earlier ++ [false]) := by
    unfold Alternating at alternating ⊢
    rw [show false :: (earlier ++ false :: later) = (false :: (earlier ++ [false])) ++ later by simp]
      at alternating
    exact alternating.left_of_append
  apply mem_of_opened
  simpa using Ne.symm ((alternating_concat earlier false).mp front).2

/-- The edges lead from one state to another, each of them changing it. -/
inductive Moves : Bool → List Bool → Bool → Prop where
  | none (state : Bool) : Moves state [] state
  | step {state target : Bool} {later : List Bool} (rest : Moves (!state) later target) :
      Moves state ((!state) :: later) target

namespace Moves

theorem single (state : Bool) : Moves state [!state] (!state) := .step (.none _)

theorem append {first middle last : Bool} {earlier later : List Bool}
    (before : Moves first earlier middle) (after : Moves middle later last) :
    Moves first (earlier ++ later) last := by
  induction before with
  | none => exact after
  | step _ ih => exact .step (ih after)

theorem isChain {state target : Bool} {edges : List Bool} (moves : Moves state edges target) :
    (state :: edges).IsChain (· ≠ ·) ∧ edges.getLastD state = target := by
  induction moves with
  | none state => exact ⟨List.isChain_singleton state, rfl⟩
  | @step state target later rest ih =>
    refine ⟨List.IsChain.cons_cons (by simp) ih.1, ?_⟩
    rw [← ih.2, List.getLastD_cons]

theorem alternating {target : Bool} {edges : List Bool} (moves : Moves false edges target) :
    Alternating edges ∧ Opened edges = target :=
  moves.isChain

end Moves

end Seer.Lib
