import Mathlib.Data.List.Basic

/-!
# Wait groups and traces

Support for proofs about processes that interleave: a counter that stands for the
members of a group still at work, conditions that held whenever an event occurred, pairs
of runs, and runs whose steps meet a condition.
-/
namespace Seer.Lib

section WaitGroup
variable {α : Type*} {counter i : Nat} {working : α → Bool} {members : List α} {old new : α}

/-- The counter of a wait group is the number of members still at work. -/
def Counts (counter : Nat) (working : α → Bool) (members : List α) : Prop :=
  counter = members.countP working

namespace Counts

/-- A new member that has called `Add(1)`. -/
theorem add (counts : Counts counter working members) (starts : working new = true) :
    Counts (counter + 1) working (members ++ [new]) := by
  unfold Counts at *
  simp [starts, counts]

/-- A new member that never joins the group. -/
theorem skip (counts : Counts counter working members) (idle : working new = false) :
    Counts counter working (members ++ [new]) := by
  unfold Counts at *
  simp [idle, counts]

/-- A member goes on without leaving the group. -/
theorem keep (counts : Counts counter working members) (here : members[i]? = some old)
    (same : working new = working old) : Counts counter working (members.set i new) := by
  obtain ⟨bound, rfl⟩ := List.getElem?_eq_some_iff.mp here
  unfold Counts at *
  rw [List.countP_set bound, same, ← counts]
  -- The member is counted, so taking it out and putting it back changes nothing.
  by_cases at_work : working members[i] = true
  · have positive : 0 < counter := by
      rw [counts]
      exact List.countP_pos_iff.mpr ⟨_, List.getElem_mem bound, at_work⟩
    simp only [at_work, if_true]
    omega
  · simp [at_work]

/-- A member calls `Done`. -/
theorem done (counts : Counts counter working members) (here : members[i]? = some old)
    (before : working old = true) (after : working new = false) :
    Counts (counter - 1) working (members.set i new) := by
  obtain ⟨bound, rfl⟩ := List.getElem?_eq_some_iff.mp here
  unfold Counts at *
  rw [List.countP_set bound, ← counts]
  simp [before, after]

/-- `Wait` returns only when no member is at work. -/
theorem idle_of_zero (counts : Counts 0 working members) (here : members[i]? = some old) :
    working old = false := by
  have none := List.countP_eq_zero.mp counts.symm old (List.mem_of_getElem? here)
  simpa using none

end Counts
end WaitGroup

section Trace
variable {ε : Type*} {guard : List ε → ε → Prop} {trace : List ε}

/-- Whenever an event occurred, the guard held of what had happened before. -/
def Guarded (guard : List ε → ε → Prop) (trace : List ε) : Prop :=
  ∀ before event after, trace = before ++ event :: after → guard before event

theorem guarded_nil : Guarded guard [] := by
  intro before event after empty
  simp at empty

/-- Where an event of a trace that went on by one stands. -/
theorem split_concat {trace before after : List ε} {last event : ε}
    (split : trace ++ [last] = before ++ event :: after) :
    (before = trace ∧ event = last ∧ after = []) ∨
      ∃ later, after = later ++ [last] ∧ trace = before ++ event :: later := by
  rcases List.eq_nil_or_concat after with rfl | ⟨later, final, rfl⟩
  · obtain ⟨rfl, same⟩ := List.append_inj' split rfl
    exact .inl ⟨rfl, (List.singleton_inj.mp same).symm, rfl⟩
  · rw [List.concat_eq_append, ← List.cons_append, ← List.append_assoc] at split
    obtain ⟨rfl, same⟩ := List.append_inj' split rfl
    exact .inr ⟨later, by rw [List.concat_eq_append, List.singleton_inj.mp same], rfl⟩

theorem Guarded.concat (guarded : Guarded guard trace) {event : ε} (holds : guard trace event) :
    Guarded guard (trace ++ [event]) := by
  intro before other after split
  rcases split_concat split with ⟨rfl, rfl, -⟩ | ⟨later, -, earlier⟩
  · exact holds
  · exact guarded before other later earlier

end Trace

section TwoRuns
variable {σ τ α β : Type*} (left : σ → α → σ) (right : τ → β → τ)
  (matched : σ → τ → α → β → Prop) (silent : α → Prop) (silent' : β → Prop)

/-- Two runs whose steps match one to one, apart from silent steps on either side. -/
inductive Paired : σ → τ → List α → List β → Prop
  | done {s : σ} {t : τ} : Paired s t [] []
  | both {s : σ} {t : τ} {a : α} {b : β} {as : List α} {bs : List β} (here : matched s t a b)
      (later : Paired (left s a) (right t b) as bs) : Paired s t (a :: as) (b :: bs)
  | onlyLeft {s : σ} {t : τ} {a : α} {as : List α} {bs : List β} (here : silent a)
      (later : Paired (left s a) t as bs) : Paired s t (a :: as) bs
  | onlyRight {s : σ} {t : τ} {b : β} {as : List α} {bs : List β} (here : silent' b)
      (later : Paired s (right t b) as bs) : Paired s t as (b :: bs)

/-- A relation that matched steps and silent steps keep holds at the ends of the runs. -/
theorem Paired.preserves {left : σ → α → σ} {right : τ → β → τ}
    {matched : σ → τ → α → β → Prop} {silent : α → Prop} {silent' : β → Prop}
    {related : σ → τ → Prop}
    (both : ∀ s t a b, related s t → matched s t a b → related (left s a) (right t b))
    (onlyLeft : ∀ s t a, related s t → silent a → related (left s a) t)
    (onlyRight : ∀ s t b, related s t → silent' b → related s (right t b))
    {s : σ} {t : τ} {as : List α} {bs : List β}
    (runs : Paired left right matched silent silent' s t as bs) (start : related s t) :
    related (as.foldl left s) (bs.foldl right t) := by
  induction runs with
  | done => exact start
  | both here _ ih => exact ih (both _ _ _ _ start here)
  | onlyLeft here _ ih => exact ih (onlyLeft _ _ _ start here)
  | onlyRight here _ ih => exact ih (onlyRight _ _ _ start here)

end TwoRuns

section Conditioned
variable {σ α : Type*} (step : σ → α → σ) (meets : σ → α → Prop)

/-- Every step meets the condition in the state it finds. -/
def Meeting (state : σ) : List α → Prop
  | [] => True
  | next :: later => meets state next ∧ Meeting (step state next) later

instance decidableMeeting [∀ state next, Decidable (meets state next)] (state : σ) :
    (steps : List α) → Decidable (Meeting step meets state steps)
  | [] => .isTrue trivial
  | next :: later =>
    have := decidableMeeting (step state next) later
    inferInstanceAs (Decidable (_ ∧ _))

theorem Meeting.of_append {step : σ → α → σ} {meets : σ → α → Prop} {state : σ}
    {earlier later : List α} (meeting : Meeting step meets state (earlier ++ later)) :
    Meeting step meets state earlier := by
  induction earlier generalizing state with
  | nil => trivial
  | cons next rest ih => exact ⟨meeting.1, ih meeting.2⟩

/-- What every step that meets the condition keeps holds at the end of the run. -/
theorem Meeting.invariant {step : σ → α → σ} {meets : σ → α → Prop} {inv : σ → Prop}
    (keeps : ∀ state next, inv state → meets state next → inv (step state next))
    {state : σ} {steps : List α} (meeting : Meeting step meets state steps) (start : inv state) :
    inv (steps.foldl step state) := by
  induction steps generalizing state with
  | nil => exact start
  | cons next later ih => exact ih meeting.2 (keeps state next start meeting.1)

end Conditioned

end Seer.Lib
