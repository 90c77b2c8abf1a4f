import Seer.Lib.Crash

/-!
# Programs against recorded answers

`Reaches program log rest` says that the program, given the answers in the log in their
order, has asked exactly the questions in the log and goes on as `rest`. `Asks` bounds what it
can ask at all.
-/
namespace Seer.Lib.Crash

variable {Op : Type} {Ans : Op → Type} {α : Type}

/-- A question with its answer. -/
abbrev Asked (Op : Type) (Ans : Op → Type) : Type := (op : Op) × Ans op

inductive Reaches : Prog Op Ans α → List (Asked Op Ans) → Prog Op Ans α → Prop where
  | here (program : Prog Op Ans α) : Reaches program [] program
  | answered (op : Op) (next : Ans op → Prog Op Ans α) (answer : Ans op)
      {log : List (Asked Op Ans)} {rest : Prog Op Ans α} (later : Reaches (next answer) log rest) :
      Reaches (.call op next) (⟨op, answer⟩ :: log) rest

namespace Reaches

/-- One more answer. -/
theorem ask {program : Prog Op Ans α} {log : List (Asked Op Ans)} {op : Op}
    {next : Ans op → Prog Op Ans α} (reaches : Reaches program log (.call op next)) (answer : Ans op) :
    Reaches program (log ++ [⟨op, answer⟩]) (next answer) := by
  generalize asking : Prog.call op next = rest at reaches
  induction reaches with
  | here =>
    subst asking
    exact .answered op next answer (.here _)
  | answered first others given _ ih => exact .answered first others given (ih asking)

/-- A question that is not the last one has its answer in the log. -/
theorem call_inv {op : Op} {next : Ans op → Prog Op Ans α} {log : List (Asked Op Ans)} {result : α}
    (reaches : Reaches (.call op next) log (.done result)) :
    ∃ answer later, log = ⟨op, answer⟩ :: later ∧ Reaches (next answer) later (.done result) := by
  cases reaches with
  | answered _ _ answer later => exact ⟨answer, _, rfl, later⟩

theorem done_inv {result final : α} {log : List (Asked Op Ans)}
    (reaches : Reaches (.done result : Prog Op Ans α) log (.done final)) : log = [] ∧ result = final := by
  cases reaches with
  | here => exact ⟨rfl, rfl⟩

end Reaches

/-- Whatever it is answered, the program asks only allowed questions. -/
def Asks (allowed : Op → Prop) : Prog Op Ans α → Prop
  | .done _ => True
  | .call op next => allowed op ∧ ∀ answer, Asks allowed (next answer)

theorem Asks.reached {allowed : Op → Prop} {program rest : Prog Op Ans α}
    {log : List (Asked Op Ans)} (asks : Asks allowed program) (reaches : Reaches program log rest) :
    Asks allowed rest := by
  induction reaches with
  | here => exact asks
  | answered op next answer _ ih => exact ih (asks.2 answer)

end Seer.Lib.Crash
