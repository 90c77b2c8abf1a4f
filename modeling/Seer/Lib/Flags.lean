import Mathlib.Data.List.Basic

/-!
# Command-line flags

The parser of Go's `flag` package for any set of flags. An argument is read as a flag with
one or two dashes and an optional value behind the first `=`; a flag that is not boolean
takes the next argument if it has no value. Parsing ends at the first argument that is no
flag, and at `--`. The rules say that only flags which an argument spells are ever set.
-/
namespace Seer.Lib.Flags

/-- What an argument is to the parser. -/
inductive Word where
  | stop
  | bad
  | flag (name : String) (value : Option String)
  deriving DecidableEq

/-- The text behind the dashes. -/
def named : List Char → Word
  | [] => .bad
  | c :: later =>
    if c = '-' ∨ c = '=' then .bad
    else .flag (String.ofList (c :: later.takeWhile (· ≠ '=')))
      ((later.dropWhile (· ≠ '=')).tail?.map String.ofList)

def wordOf (arg : String) : Word :=
  match arg.toList with
  | '-' :: '-' :: name => if name = [] then .stop else named name
  | '-' :: c :: name => named (c :: name)
  | _ => .stop

/-- Why parsing fails. -/
inductive Failure where
  | help
  | failed (message : String)
  deriving DecidableEq

/-- The flags of a program, with what setting one does to its variables. -/
structure FlagSet (φ σ : Type*) where
  formal : String → Option φ
  isBool : φ → Bool
  set : φ → String → σ → Except String σ

/-- The variables, and the flags that were set. -/
structure Parsed (φ σ : Type*) where
  values : σ
  actual : List φ := []

section Parse
variable {φ σ : Type*} (flags : FlagSet φ σ)

def assign (flag : φ) (value : String) (parsed : Parsed φ σ) : Except Failure (Parsed φ σ) :=
  match flags.set flag value parsed.values with
  | .error message => .error (.failed message)
  | .ok values => .ok { values, actual := parsed.actual ++ [flag] }

def parse : List String → Parsed φ σ → Except Failure (Parsed φ σ)
  | [], parsed => .ok parsed
  | arg :: later, parsed =>
    match wordOf arg with
    | .stop => .ok parsed
    | .bad => .error (.failed ("bad flag syntax: " ++ arg))
    | .flag name value =>
      match flags.formal name with
      | none =>
        if name = "help" ∨ name = "h" then .error .help
        else .error (.failed ("flag provided but not defined: -" ++ name))
      | some flag =>
        if flags.isBool flag then
          match assign flags flag (value.getD "true") parsed with
          | .error failure => .error failure
          | .ok parsed => parse later parsed
        else
          match value, later with
          | some value, later =>
            match assign flags flag value parsed with
            | .error failure => .error failure
            | .ok parsed => parse later parsed
          | none, [] => .error (.failed ("flag needs an argument: -" ++ name))
          | none, value :: later =>
            match assign flags flag value parsed with
            | .error failure => .error failure
            | .ok parsed => parse later parsed

end Parse

section Rules
variable {φ σ : Type*} {flags : FlagSet φ σ} {before after : Parsed φ σ} {args : List String}

/-- One of the arguments is a flag by its form, and names this one. -/
def Spelled (flags : FlagSet φ σ) (args : List String) (flag : φ) : Prop :=
  ∃ arg ∈ args, ∃ name value, wordOf arg = .flag name value ∧ flags.formal name = some flag

theorem Spelled.cons {arg : String} {flag : φ} (spelled : Spelled flags args flag) :
    Spelled flags (arg :: args) flag := by
  obtain ⟨other, member, named⟩ := spelled
  exact ⟨other, List.mem_cons_of_mem _ member, named⟩

theorem assign_eq_ok {flag : φ} {value : String} :
    assign flags flag value before = .ok after ↔
      flags.set flag value before.values = .ok after.values ∧ after.actual = before.actual ++ [flag] := by
  unfold assign
  cases flags.set flag value before.values with
  | error message => simp
  | ok values =>
    cases after
    simp [eq_comm]

/-- What every spelled flag keeps when it is set holds after parsing. -/
theorem parse_invariant {inv : Parsed φ σ → Prop} (parsed : parse flags args before = .ok after)
    (keeps : ∀ flag, Spelled flags args flag → ∀ value s t, assign flags flag value s = .ok t →
      inv s → inv t)
    (start : inv before) : inv after := by
  -- By the steps of the parser: a flag that takes the next argument uses up two.
  fun_induction parse flags args before with
  | case1 before | case2 arg later before stops =>
    cases parsed
    exact start
  | case3 | case4 | case5 | case6 | case8 | case10 | case11 => cases parsed
  | case7 arg later before name value word flag formal boolean next assigned ih =>
    have here := keeps flag ⟨arg, List.mem_cons_self, name, value, word, formal⟩ _ _ _ assigned start
    exact ih parsed (fun other spelled => keeps other spelled.cons) here
  | case9 arg before name flag formal valued value later next assigned word ih =>
    have here := keeps flag ⟨arg, List.mem_cons_self, name, _, word, formal⟩ _ _ _ assigned start
    exact ih parsed (fun other spelled => keeps other spelled.cons) here
  | case12 arg before name flag formal valued value later next assigned word ih =>
    have here := keeps flag ⟨arg, List.mem_cons_self, name, _, word, formal⟩ _ _ _ assigned start
    exact ih parsed (fun other spelled => keeps other spelled.cons.cons) here

end Rules

end Seer.Lib.Flags
