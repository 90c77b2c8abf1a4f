import Mathlib.Data.List.Basic

/-!
# Regular expressions with leftmost-first matching

The matches at a position are listed in the order in which a backtracking matcher tries
them; the match is the first of the list. This is the rule of RE2 for expressions that are
not anchored and match no empty text. Repetition is over single letters and greedy.
-/
namespace Seer.Lib.Regex

variable {α : Type*}

inductive Pattern (α : Type*) where
  | empty
  | one (accepts : α → Bool)
  /-- One letter or more, as many as possible. -/
  | plus (accepts : α → Bool)
  | seq (first second : Pattern α)
  /-- The first alternative is preferred. -/
  | alt (first second : Pattern α)
  | group (index : Nat) (inner : Pattern α)

/-- The text behind a match, and what its groups have captured. -/
structure Path (α : Type*) where
  rest : List α
  captures : List (Nat × List α) := []

/-- The texts behind one accepted letter or more, the shortest first. -/
def plusRests (accepts : α → Bool) : List α → List (List α)
  | [] => []
  | letter :: later => if accepts letter then plusRests accepts later ++ [later] else []

def paths : Pattern α → List α → List (Path α)
  | .empty, text => [{ rest := text }]
  | .one _, [] => []
  | .one accepts, letter :: later => if accepts letter then [{ rest := later }] else []
  | .plus accepts, text => (plusRests accepts text).map fun rest => { rest }
  | .seq first second, text =>
    (paths first text).flatMap fun path =>
      (paths second path.rest).map fun next =>
        { rest := next.rest, captures := path.captures ++ next.captures }
  | .alt first second, text => paths first text ++ paths second text
  | .group index inner, text =>
    (paths inner text).map fun path =>
      { path with
        captures := path.captures ++ [(index, text.take (text.length - path.rest.length))] }

/-- The match that starts at the head of the text. -/
def matchAt (pattern : Pattern α) (text : List α) : Option (Path α) := (paths pattern text).head?

/-- The leftmost match. -/
def find (pattern : Pattern α) : List α → Option (Path α)
  | [] => matchAt pattern []
  | letter :: later => (matchAt pattern (letter :: later)).or (find pattern later)

/-- All matches replaced, from left to right; `skip` letters belong to the last match. -/
def replaceFrom (pattern : Pattern α) (by' : List α) : Nat → List α → List α
  | _, [] => []
  | skip + 1, _ :: later => replaceFrom pattern by' skip later
  | 0, letter :: later =>
    match matchAt pattern (letter :: later) with
    | some path => by' ++ replaceFrom pattern by' (later.length - path.rest.length) later
    | none => letter :: replaceFrom pattern by' 0 later

def replaceAll (pattern : Pattern α) (by' : List α) (text : List α) : List α :=
  replaceFrom pattern by' 0 text

/-- A fixed text. -/
def word [DecidableEq α] : List α → Pattern α
  | [] => .empty
  | letter :: later => .seq (.one (· = letter)) (word later)

def opt (pattern : Pattern α) : Pattern α := .alt pattern .empty

/-! ## Where matches end -/

/-- The ends of the matches, without the captures. -/
def rests (pattern : Pattern α) (text : List α) : List (List α) := (paths pattern text).map Path.rest

section Rests
variable {first second pattern : Pattern α} {text : List α}

theorem map_rest_matchAt : (matchAt pattern text).map Path.rest = (rests pattern text).head? := by
  rw [rests, List.head?_map, matchAt]

@[simp] theorem rests_empty : rests .empty text = [text] := rfl

theorem rests_one_cons (accepts : α → Bool) (letter : α) (later : List α) :
    rests (.one accepts) (letter :: later) = if accepts letter then [later] else [] := by
  unfold rests paths
  split <;> rfl

@[simp] theorem rests_one_nil (accepts : α → Bool) : rests (.one accepts) [] = [] := rfl

@[simp] theorem rests_plus (accepts : α → Bool) :
    rests (.plus accepts) text = plusRests accepts text := by
  simp [rests, paths, Function.comp_def]

theorem rests_seq : rests (.seq first second) text = (rests first text).flatMap (rests second) := by
  simp only [rests, paths, List.map_flatMap, List.map_map, List.flatMap_map]
  rfl

@[simp] theorem rests_alt : rests (.alt first second) text = rests first text ++ rests second text := by
  simp [rests, paths]

@[simp] theorem rests_group (index : Nat) : rests (.group index pattern) text = rests pattern text := by
  simp [rests, paths]

theorem rests_word [DecidableEq α] (letters text : List α) :
    rests (word letters) text = if letters <+: text then [text.drop letters.length] else [] := by
  induction letters generalizing text with
  | nil => simp [word]
  | cons letter later ih =>
    rw [word, rests_seq]
    cases text with
    | nil => simp
    | cons head tail =>
      rw [rests_one_cons]
      by_cases same : head = letter
      · simp [same, ih, List.cons_prefix_cons]
      · simp [same, Ne.symm same, List.cons_prefix_cons]

/-- Two words are one. -/
theorem rests_word_word [DecidableEq α] (one two text : List α) :
    rests (.seq (word one) (word two)) text = rests (word (one ++ two)) text := by
  rw [rests_seq]
  induction one generalizing text with
  | nil => simp [word]
  | cons letter later ih =>
    rw [List.cons_append, word, word, rests_seq, rests_seq, List.flatMap_assoc]
    exact List.flatMap_congr fun rest _ => ih rest

/-- With an optional end the longer match is tried first. -/
theorem rests_word_opt [DecidableEq α] (letters : List α) :
    rests (.seq (word letters) (opt pattern)) text =
      rests (.seq (word letters) pattern) text ++ rests (word letters) text := by
  rw [rests_seq, rests_seq, rests_word]
  split <;> simp [opt]

/-- What a match leaves is the end of the text. -/
theorem suffix_of_mem_plusRests {accepts : α → Bool} {rest : List α}
    (member : rest ∈ plusRests accepts text) : rest <:+ text := by
  induction text with
  | nil => cases member
  | cons letter later ih =>
    unfold plusRests at member
    split at member
    · rcases List.mem_append.mp member with deeper | here
      · exact (ih deeper).trans (List.suffix_cons _ _)
      · rw [List.mem_singleton.mp here]
        exact List.suffix_cons _ _
    · cases member

theorem suffix_of_mem_rests {rest : List α} (member : rest ∈ rests pattern text) : rest <:+ text := by
  induction pattern generalizing text rest with
  | empty =>
    rw [rests_empty, List.mem_singleton] at member
    exact member ▸ List.suffix_rfl
  | one accepts =>
    cases text with
    | nil => cases member
    | cons letter later =>
      rw [rests_one_cons] at member
      split at member
      · rw [List.mem_singleton.mp member]
        exact List.suffix_cons _ _
      · cases member
  | plus accepts =>
    rw [rests_plus] at member
    exact suffix_of_mem_plusRests member
  | seq first second one two =>
    rw [rests_seq, List.mem_flatMap] at member
    obtain ⟨middle, start, finish⟩ := member
    exact (two finish).trans (one start)
  | alt first second one two =>
    rw [rests_alt, List.mem_append] at member
    exact member.elim one two
  | group index inner ih =>
    rw [rests_group] at member
    exact ih member

end Rests

/-! ## The first match and its captures -/

/-- What a group has captured, empty if it has no part in the match. -/
def Path.submatch (path : Path α) (index : Nat) : List α := (path.captures.lookup index).getD []

section First
variable {first second pattern : Pattern α} {text : List α}

theorem matchAt_seq {path next : Path α} (here : matchAt first text = some path)
    (there : matchAt second path.rest = some next) :
    matchAt (.seq first second) text =
      some { rest := next.rest, captures := path.captures ++ next.captures } := by
  obtain ⟨others, listed⟩ := List.head?_eq_some_iff.mp here
  obtain ⟨later, behind⟩ := List.head?_eq_some_iff.mp there
  simp [matchAt, paths, listed, behind]

theorem matchAt_seq_none (here : matchAt first text = none) :
    matchAt (.seq first second) text = none := by
  have nothing : paths first text = [] := List.head?_eq_none_iff.mp here
  simp [matchAt, paths, nothing]

theorem matchAt_group {index : Nat} :
    matchAt (.group index pattern) text = (matchAt pattern text).map fun path =>
      { path with
        captures := path.captures ++ [(index, text.take (text.length - path.rest.length))] } := by
  simp [matchAt, paths, List.head?_map]

/-- A group captures what its match has taken. -/
theorem take_captured (taken rest : List α) :
    (taken ++ rest).take ((taken ++ rest).length - rest.length) = taken := by
  simp

theorem matchAt_opt :
    matchAt (opt pattern) text = (matchAt pattern text).or (some { rest := text }) := by
  simp [matchAt, opt, paths, List.head?_append]

theorem head_plusRests (accepts : α → Bool) (text : List α) :
    (plusRests accepts text).head? =
      if (text.takeWhile accepts).isEmpty then none else some (text.dropWhile accepts) := by
  induction text with
  | nil => rfl
  | cons letter later ih =>
    unfold plusRests
    by_cases taken : accepts letter = true
    · rw [if_pos taken, List.head?_append, ih, List.takeWhile_cons_of_pos taken,
        List.dropWhile_cons_of_pos taken]
      -- The run ends here if it does not go on.
      cases accepted : later.takeWhile accepts with
      | nil =>
        have stays : later.dropWhile accepts = later := by
          have whole : later.takeWhile accepts ++ later.dropWhile accepts = later :=
            List.takeWhile_append_dropWhile
          rwa [accepted] at whole
        simp [stays]
      | cons => simp
    · rw [if_neg taken, List.takeWhile_cons_of_neg taken]
      rfl

/-- A repetition takes the longest run. -/
theorem matchAt_plus (accepts : α → Bool) :
    matchAt (.plus accepts) text =
      if (text.takeWhile accepts).isEmpty then none else some { rest := text.dropWhile accepts } := by
  rw [matchAt, paths, List.head?_map, head_plusRests]
  split <;> rfl

theorem paths_word_append [DecidableEq α] (letters text : List α) :
    paths (word letters) (letters ++ text) = [{ rest := text }] := by
  induction letters with
  | nil => rfl
  | cons letter later ih => simp [word, paths, ih]

/-- Behind a fixed text the match is that of the rest. -/
theorem matchAt_word_seq [DecidableEq α] (letters text : List α) :
    matchAt (.seq (word letters) second) (letters ++ text) = matchAt second text := by
  simp [matchAt, paths, paths_word_append]

theorem matchAt_word_seq_none [DecidableEq α] {letters text : List α} (other : ¬ letters <+: text) :
    matchAt (.seq (word letters) second) text = none := by
  have nothing : (matchAt (word letters) text).map Path.rest = none := by
    rw [map_rest_matchAt, rests_word, if_neg other]
    rfl
  exact matchAt_seq_none (Option.map_eq_none_iff.mp nothing)

/-- The leftmost match is at the first place that has one. -/
theorem find_append {before : List α} {path : Path α} (here : matchAt pattern text = some path)
    (nowhere : ∀ earlier later, before = earlier ++ later → later ≠ [] →
      matchAt pattern (later ++ text) = none) :
    find pattern (before ++ text) = some path := by
  induction before with
  | nil =>
    cases text with
    | nil => exact here
    | cons letter later => rw [List.nil_append, find, here, Option.some_or]
  | cons letter later ih =>
    rw [List.cons_append, find, ← List.cons_append, nowhere [] (letter :: later) rfl nofun, Option.none_or]
    refine ih fun earlier rest split nonempty => ?_
    exact nowhere (letter :: earlier) rest (by rw [split, List.cons_append]) nonempty

theorem find_eq_none
    (nowhere : ∀ earlier later, text = earlier ++ later → matchAt pattern later = none) :
    find pattern text = none := by
  induction text with
  | nil => exact nowhere [] [] rfl
  | cons letter later ih =>
    rw [find, nowhere [] _ rfl, Option.none_or]
    exact ih fun earlier rest split => nowhere (letter :: earlier) rest (by rw [split, List.cons_append])

end First

/-! ## Replacing -/

section Replace
variable {pattern : Pattern α} {by' : List α}

theorem replaceFrom_drop (skip : Nat) (text : List α) :
    replaceFrom pattern by' skip text = replaceAll pattern by' (text.drop skip) := by
  induction text generalizing skip with
  | nil => cases skip <;> rfl
  | cons letter later ih =>
    cases skip with
    | zero => rfl
    | succ skip => exact ih skip

@[simp] theorem replaceAll_nil : replaceAll pattern by' [] = [] := rfl

/-- Where nothing matches, the letter stays. -/
theorem replaceAll_skip {letter : α} {later : List α}
    (none : (rests pattern (letter :: later)).head? = none) :
    replaceAll pattern by' (letter :: later) = letter :: replaceAll pattern by' later := by
  rw [← map_rest_matchAt, Option.map_eq_none_iff] at none
  rw [replaceAll, replaceFrom, none]
  rfl

/-- A match that takes its first letter is replaced, and the search goes on behind it. -/
theorem replaceAll_match {letter : α} {later rest : List α}
    (found : (rests pattern (letter :: later)).head? = some rest) (behind : rest <:+ later) :
    replaceAll pattern by' (letter :: later) = by' ++ replaceAll pattern by' rest := by
  rw [← map_rest_matchAt, Option.map_eq_some_iff] at found
  obtain ⟨path, matched, rfl⟩ := found
  rw [replaceAll, replaceFrom, matched]
  simp only
  rw [replaceFrom_drop, ← List.suffix_iff_eq_drop.mp behind]

theorem replaceAll_of_find_none {text : List α} (unmatched : find pattern text = none) :
    replaceAll pattern by' text = text := by
  induction text with
  | nil => rfl
  | cons letter later ih =>
    rw [find, Option.or_eq_none_iff] at unmatched
    rw [replaceAll_skip, ih unmatched.2]
    rw [← map_rest_matchAt, unmatched.1, Option.map_none]

end Replace

end Seer.Lib.Regex
