import Mathlib.Logic.Basic

/-!
# Programs over fallible operations that may stop anywhere

A program is the tree of the operations it issues. A handler gives every
operation its effect for a choice made by the environment (success, or one of
its failures). `Visits` collects the states in which a stopped process can
leave the world, and `Guards` is the matching Hoare rule: a crash condition
for every such state and a postcondition for the states at return.
-/
namespace Seer.Lib.Crash

variable {Op : Type} {Ans : Op → Type} {Choice σ α β : Type}

inductive Prog (Op : Type) (Ans : Op → Type) (α : Type) where
  | done (result : α)
  | call (op : Op) (next : Ans op → Prog Op Ans α)

namespace Prog

def bind : Prog Op Ans α → (α → Prog Op Ans β) → Prog Op Ans β
  | done result, rest => rest result
  | call op next, rest => call op fun answer => (next answer).bind rest

/-- One operation, returning its answer. -/
def perform (op : Op) : Prog Op Ans (Ans op) :=
  call op done

instance : Monad (Prog Op Ans) where
  pure := done
  bind := bind

end Prog

/-- The effect of each operation under a choice of the environment. -/
def Handler (Op : Type) (Ans : Op → Type) (Choice σ : Type) : Type :=
  (op : Op) → Choice → σ → Ans op × σ

/-- `Visits handle program before after`: the process may stop in `after`,
between two operations or at the return of `program`. -/
inductive Visits (handle : Handler Op Ans Choice σ) : Prog Op Ans α → σ → σ → Prop where
  | here (program : Prog Op Ans α) (state : σ) : Visits handle program state state
  | step (op : Op) (next : Ans op → Prog Op Ans α) (state after : σ) (choice : Choice)
      (rest : Visits handle (next (handle op choice state).1) (handle op choice state).2 after) :
      Visits handle (.call op next) state after

/-- The state after the operations a list of choices allows for. -/
def Prog.follow (handle : Handler Op Ans Choice σ) : List Choice → Prog Op Ans α → σ → σ
  | choice :: choices, .call op next, state =>
    (next (handle op choice state).1).follow handle choices (handle op choice state).2
  | _, _, state => state

theorem Visits.follow (handle : Handler Op Ans Choice σ) (choices : List Choice)
    (program : Prog Op Ans α) (state : σ) :
    Visits handle program state (program.follow handle choices state) := by
  induction choices generalizing program state with
  | nil => exact .here program state
  | cons choice choices ih =>
    cases program with
    | done result => exact .here _ state
    | call op next => exact .step op next state _ choice (ih _ _)

/-- Every state met satisfies `crash`, and a return satisfies `post` as well. -/
def Guards (handle : Handler Op Ans Choice σ) (crash : σ → Prop) (post : α → σ → Prop) :
    Prog Op Ans α → σ → Prop
  | .done result, state => crash state ∧ post result state
  | .call op next, state => crash state ∧ ∀ choice,
      Guards handle crash post (next (handle op choice state).1) (handle op choice state).2

section Rules
variable (handle : Handler Op Ans Choice σ)

theorem Guards.visited {crash : σ → Prop} {post : α → σ → Prop} {program : Prog Op Ans α}
    {before after : σ} (guarded : Guards handle crash post program before)
    (visited : Visits handle program before after) : crash after := by
  -- On the stopped run: stopping here needs the condition now, a step hands it on.
  induction visited with
  | here program state =>
    cases program with
    | done result => exact guarded.1
    | call op next => exact guarded.1
  | step op next state after choice rest ih => exact ih (guarded.2 choice)

theorem Guards.mono {crash crash' : σ → Prop} {post post' : α → σ → Prop}
    (weaker : ∀ state, crash state → crash' state)
    (returns : ∀ result state, post result state → post' result state)
    {program : Prog Op Ans α} {state : σ} (guarded : Guards handle crash post program state) :
    Guards handle crash' post' program state := by
  induction program generalizing state with
  | done result => exact ⟨weaker state guarded.1, returns result state guarded.2⟩
  | call op next ih => exact ⟨weaker state guarded.1, fun choice => ih _ (guarded.2 choice)⟩

/-- Sequencing: the first program may only return where the rest is guarded. -/
theorem Guards.bind {crash : σ → Prop} {post : β → σ → Prop} {program : Prog Op Ans α}
    {rest : α → Prog Op Ans β} {state : σ}
    (guarded : Guards handle crash (fun result => Guards handle crash post (rest result))
      program state) : Guards handle crash post (program >>= rest) state := by
  induction program generalizing state with
  | done result => exact guarded.2
  | call op next ih => exact ⟨guarded.1, fun choice => ih _ (guarded.2 choice)⟩

theorem Guards.pure {crash : σ → Prop} {post : α → σ → Prop} {result : α} {state : σ}
    (safe : crash state) (holds : post result state) :
    Guards handle crash post (pure result) state :=
  ⟨safe, holds⟩

/-- The crash condition holds at the return as well. -/
theorem Guards.alive {crash : σ → Prop} {post : α → σ → Prop} {program : Prog Op Ans α}
    {state : σ} (guarded : Guards handle crash post program state) :
    Guards handle crash (fun result after => crash after ∧ post result after) program state := by
  induction program generalizing state with
  | done result => exact ⟨guarded.1, guarded⟩
  | call op next ih => exact ⟨guarded.1, fun choice => ih _ (guarded.2 choice)⟩

end Rules

/-! ## Completed runs -/

/-- The program may return `result`, leaving `after`. -/
inductive Returns (handle : Handler Op Ans Choice σ) : Prog Op Ans α → σ → α → σ → Prop where
  | done (result : α) (state : σ) : Returns handle (.done result) state result state
  | call {op : Op} {next : Ans op → Prog Op Ans α} {state after : σ} {result : α} (choice : Choice)
      (rest : Returns handle (next (handle op choice state).1) (handle op choice state).2
        result after) :
      Returns handle (.call op next) state result after

theorem Guards.returned {handle : Handler Op Ans Choice σ} {crash : σ → Prop} {post : α → σ → Prop}
    {program : Prog Op Ans α} {before after : σ} {result : α}
    (guarded : Guards handle crash post program before)
    (returns : Returns handle program before result after) : post result after := by
  induction returns with
  | done result state => exact guarded.2
  | call choice rest ih => exact ih (guarded.2 choice)

/-- Some run of the program returns, with a result and a state that satisfy `post`. -/
def May (handle : Handler Op Ans Choice σ) (post : α → σ → Prop) (program : Prog Op Ans α)
    (before : σ) : Prop :=
  ∃ result after, Returns handle program before result after ∧ post result after

section Possible
variable {handle : Handler Op Ans Choice σ}

theorem May.pure {post : α → σ → Prop} {result : α} {state : σ} (holds : post result state) :
    May handle post (pure result) state :=
  ⟨result, state, .done result state, holds⟩

theorem May.perform {op : Op} {post : Ans op → σ → Prop} {state : σ} (choice : Choice)
    (holds : post (handle op choice state).1 (handle op choice state).2) :
    May handle post (Prog.perform op) state :=
  ⟨_, _, .call choice (.done _ _), holds⟩

theorem May.bind {post : β → σ → Prop} {program : Prog Op Ans α} {rest : α → Prog Op Ans β}
    {state : σ} (first : May handle (fun result => May handle post (rest result)) program state) :
    May handle post (program >>= rest) state := by
  obtain ⟨middle, between, returns, result, after, later, holds⟩ := first
  refine ⟨result, after, ?_, holds⟩
  clear holds
  -- The first run is replayed in front of the second.
  induction returns with
  | done => exact later
  | call choice _ ih => exact .call choice (ih later)

theorem May.mono {post post' : α → σ → Prop} {program : Prog Op Ans α} {state : σ}
    (possible : May handle post program state)
    (implies : ∀ result after, post result after → post' result after) :
    May handle post' program state := by
  obtain ⟨result, after, returns, holds⟩ := possible
  exact ⟨result, after, returns, implies result after holds⟩

end Possible

/-- A process calls programs from `allowed` one after another. Each call runs to
its return or stops part-way; a new process then continues from what it left. -/
inductive Calls (handle : ι → Handler Op Ans Choice σ) (program : ι → Prog Op Ans α)
    (initial : σ) : List ι → σ → Prop where
  | start : Calls handle program initial [] initial
  | call {made : List ι} {before after : σ} (earlier : Calls handle program initial made before)
      (request : ι) (visited : Visits (handle request) (program request) before after) :
      Calls handle program initial (made ++ [request]) after

/-- The invariant rule for repeated calls. -/
theorem Calls.invariant {ι : Type} {handle : ι → Handler Op Ans Choice σ}
    {program : ι → Prog Op Ans α} {initial : σ} (inv : List ι → σ → Prop)
    (starts : inv [] initial)
    (kept : ∀ made before request, inv made before →
      Guards (handle request) (inv (made ++ [request])) (fun _ _ => True) (program request) before)
    {made : List ι} {state : σ} (calls : Calls handle program initial made state) :
    inv made state := by
  induction calls with
  | start => exact starts
  | call earlier request visited ih => exact (kept _ _ request ih).visited _ visited

end Seer.Lib.Crash
