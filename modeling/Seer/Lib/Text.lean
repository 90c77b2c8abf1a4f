import Mathlib.Data.List.Basic

/-!
# Finding a word in a text

`cut` splits a text at the first place where a word starts, as `strings.Cut` does.
-/
namespace Seer.Lib.Text

variable {α : Type*} [DecidableEq α]

/-- What is before and behind the first occurrence of the word. -/
def cut (word : List α) : List α → Option (List α × List α)
  | [] => if word = [] then some ([], []) else none
  | first :: later =>
    if word <+: first :: later then some ([], (first :: later).drop word.length)
    else (cut word later).map fun parts => (first :: parts.1, parts.2)

def contains (word text : List α) : Bool := (cut word text).isSome

/-- The two parts of a text in which the word occurs exactly once: `strings.Split` gives as
many parts as it finds occurrences that do not overlap, and one more. -/
def splitTwo (word text : List α) : Option (List α × List α) :=
  (cut word text).filter fun parts => !contains word parts.2

end Seer.Lib.Text
