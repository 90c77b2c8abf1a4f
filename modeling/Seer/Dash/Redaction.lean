import Seer.Lib.Regex
import Mathlib.Data.List.Infix

/-!
# Hiding endpoints on the dashboard

With hidden logs the dashboard replaces what looks like an endpoint in a chain's error
text. The expression takes the character before the scheme, the scheme and all of the line
up to its last word character; that character before may be the end of the line above.
The theorem says what this is for: the text behind the scheme has no influence on what is
shown.
-/
namespace Seer.Dash

open Seer.Lib.Regex

/-- `\w`: only ASCII letters, digits and the underscore. -/
def isWord (c : Char) : Bool := c.isAlphanum || c = '_'

/-- `https?|tcp|wss?` -/
def scheme : Pattern Char :=
  .alt (.seq (word ['h', 't', 't', 'p']) (opt (word ['s'])))
    (.alt (word ['t', 'c', 'p']) (.seq (word ['w', 's']) (opt (word ['s']))))

/-- The rest of a line from its second character on, up to a word character: `.+\w` -/
def restOfLine : Pattern Char := .seq (.plus (· ≠ '\n')) (.one isWord)

/-- `\W(https?|tcp|wss?)://.+\w` -/
def rex : Pattern Char :=
  .seq (.one (!isWord ·)) (.seq (.seq (.group 1 scheme) (word [':', '/', '/'])) restOfLine)

def redaction : List Char := " -redacted-".toList

/-- What `Serve` does to `LastError` when logs are hidden. -/
def redact (text : List Char) : List Char :=
  if (find rex text).isSome then replaceAll rex redaction text else text

/-! ## The end of a match -/

/-- The text behind the last word character of the line. -/
def lastWord : List Char → Option (List Char)
  | [] => none
  | c :: later =>
    if c = '\n' then none else (lastWord later).or (if isWord c then some later else none)

/-- The same, where the first character cannot be the last of the match. -/
def tailRest : List Char → Option (List Char)
  | [] => none
  | c :: later => if c = '\n' then none else lastWord later

theorem isWord_newline : isWord '\n' = false := by decide

theorem head_restOfLine (text : List Char) : (rests restOfLine text).head? = tailRest text := by
  have one : ∀ text, (rests (.one isWord) text).head? =
      match text with
      | [] => none
      | c :: later => if isWord c then some later else none := by
    intro text
    cases text with
    | nil => rfl
    | cons c later =>
      rw [rests_one_cons]
      simp only
      split <;> rfl
  rw [restOfLine, rests_seq, rests_plus]
  induction text with
  | nil => rfl
  | cons c later ih =>
    by_cases newline : c = '\n'
    · simp [plusRests, newline, tailRest]
    · have more : plusRests (· ≠ '\n') (c :: later) = plusRests (· ≠ '\n') later ++ [later] := by
        simp [plusRests, newline]
      rw [more, List.flatMap_append, List.head?_append, ih, List.flatMap_singleton, one, tailRest,
        if_neg newline]
      cases later with
      | nil => rfl
      | cons d rest =>
        simp only [tailRest, lastWord]
        by_cases stop : d = '\n'
        · simp [stop, isWord_newline]
        · simp [stop]

/-- The beginnings of an endpoint, as the expression tries them. -/
def urlStarts : List (List Char) :=
  [['h', 't', 't', 'p', 's', ':', '/', '/'], ['h', 't', 't', 'p', ':', '/', '/'],
    ['t', 'c', 'p', ':', '/', '/'], ['w', 's', 's', ':', '/', '/'], ['w', 's', ':', '/', '/']]

theorem rests_scheme (text : List Char) :
    rests (.seq (.group 1 scheme) (word [':', '/', '/'])) text =
      urlStarts.flatMap fun start => rests (word start) text := by
  have behind : ∀ letters, (rests (word letters) text).flatMap (rests (word [':', '/', '/'])) =
      rests (word (letters ++ [':', '/', '/'])) text := by
    intro letters
    rw [← rests_seq, rests_word_word]
  rw [rests_seq, rests_group]
  simp only [scheme, rests_alt, rests_word_opt, rests_word_word, List.flatMap_append, behind]
  simp [urlStarts]

/-- The match of the expression at a position. -/
def rexAt : List Char → Option (List Char)
  | [] => none
  | c :: later =>
    if isWord c then none
    else urlStarts.findSome? fun start =>
      if start <+: later then tailRest (later.drop start.length) else none

theorem head_rex (text : List Char) : (rests rex text).head? = rexAt text := by
  cases text with
  | nil => rfl
  | cons c later =>
    rw [rex, rests_seq, rests_one_cons, rexAt]
    cases isWord c with
    | true => rfl
    | false =>
      simp only [Bool.not_false, if_true, List.flatMap_singleton, Bool.false_eq_true, if_false]
      rw [rests_seq, rests_scheme, List.flatMap_assoc, List.head?_flatMap]
      congr 1
      funext start
      rw [rests_word]
      split
      · rw [List.flatMap_singleton, head_restOfLine]
      · rfl

/-- A match takes the character it starts with. -/
theorem suffix_of_rexAt {c : Char} {later rest : List Char} (found : rexAt (c :: later) = some rest) :
    rest <:+ later := by
  rw [← head_rex, rex, rests_seq, rests_one_cons] at found
  split at found
  · rw [List.flatMap_singleton] at found
    exact suffix_of_mem_rests (List.mem_of_mem_head? found)
  · cases found

/-! ## A line that ends in an endpoint -/

theorem lastWord_line {line rest : List Char} {last : Char} (oneLine : '\n' ∉ line)
    (ends : isWord last = true) (idle : lastWord rest = none) :
    lastWord (line ++ last :: rest) = some rest := by
  have other : last ≠ '\n' := by
    rintro rfl
    simp [isWord_newline] at ends
  induction line with
  | nil => simp [lastWord, other, idle, ends]
  | cons c later ih =>
    simp only [List.mem_cons, not_or] at oneLine
    simp [lastWord, Ne.symm oneLine.1, ih oneLine.2]

/-- Behind a line break nothing matters to the line before it. -/
theorem lastWord_broken {line more : List Char} (broken : '\n' ∈ line ∨ more.head? = some '\n') :
    lastWord (line ++ more) = (lastWord line).map (· ++ more) := by
  induction line with
  | nil =>
    obtain ⟨later, rfl⟩ := List.head?_eq_some_iff.mp (broken.resolve_left List.not_mem_nil)
    simp [lastWord]
  | cons c later ih =>
    by_cases newline : c = '\n'
    · simp [lastWord, newline]
    · have deeper : '\n' ∈ later ∨ more.head? = some '\n' := broken.imp_left fun member =>
        (List.mem_cons.mp member).resolve_left (Ne.symm newline)
      rw [List.cons_append, lastWord, lastWord, if_neg newline, if_neg newline, ih deeper]
      cases lastWord later with
      | some rest => rfl
      | none => cases isWord c <;> rfl

theorem tailRest_broken {line more : List Char} (broken : '\n' ∈ line ∨ more.head? = some '\n') :
    tailRest (line ++ more) = (tailRest line).map (· ++ more) := by
  cases line with
  | nil =>
    obtain ⟨later, rfl⟩ := List.head?_eq_some_iff.mp (broken.resolve_left List.not_mem_nil)
    simp [tailRest]
  | cons c later =>
    by_cases newline : c = '\n'
    · simp [tailRest, newline]
    · have deeper : '\n' ∈ later ∨ more.head? = some '\n' := broken.imp_left fun member =>
        (List.mem_cons.mp member).resolve_left (Ne.symm newline)
      simp only [List.cons_append, tailRest, newline, if_false]
      exact lastWord_broken deeper

theorem suffix_of_lastWord {line rest : List Char} (found : lastWord line = some rest) :
    rest <:+ line := by
  induction line with
  | nil => cases found
  | cons c later ih =>
    rw [lastWord] at found
    split at found
    · cases found
    · rcases Option.or_eq_some_iff.mp found with deeper | ⟨-, here⟩
      · exact (ih deeper).trans (List.suffix_cons _ _)
      · obtain ⟨-, same⟩ := Option.ite_none_right_eq_some.mp here
        cases same
        exact List.suffix_cons _ _

theorem suffix_of_tailRest {line rest : List Char} (found : tailRest line = some rest) :
    rest <:+ line := by
  cases line with
  | nil => cases found
  | cons c later =>
    rw [tailRest] at found
    split at found
    · cases found
    · exact (suffix_of_lastWord found).trans (List.suffix_cons _ _)

theorem urlStarts_oneLine : ∀ start ∈ urlStarts, '\n' ∉ start := by decide

theorem urlStarts_letter : ∀ start ∈ urlStarts, start.head? ≠ some '/' ∧ start ≠ [] := by decide

/-- No beginning of an endpoint is the beginning of another one. -/
theorem urlStarts_apart : ∀ one ∈ urlStarts, ∀ two ∈ urlStarts, one <+: two → one = two := by decide

/-- Behind a character that is no word character comes a slash or the end. -/
def slashed : List Char → Bool
  | [] => true
  | c :: later => isWord c || later = [] || later.head? = some '/'

theorem urlStarts_slashed : ∀ start ∈ urlStarts, ∀ tail ∈ start.tails, slashed tail = true := by
  decide

/-- An endpoint that runs to the last word character of its line. -/
structure Endpoint where
  start : List Char
  listed : start ∈ urlStarts
  /-- Host, port, path and whatever follows them in the line, but for the last character. -/
  secret : List Char
  last : Char
  oneLine : '\n' ∉ secret
  long : secret ≠ []
  ends : isWord last = true

namespace Endpoint

variable (endpoint : Endpoint)

/-- The endpoint, and behind it what has no word character before the end of the line. -/
def text (rest : List Char) : List Char :=
  endpoint.start ++ endpoint.secret ++ endpoint.last :: rest

variable {rest : List Char} (idle : lastWord rest = none)
include idle

/-- A match that starts before the endpoint, in its line, ends with it. -/
theorem tailRest_before {line : List Char} {c : Char} (oneLine : '\n' ∉ line) (same : c ≠ '\n') :
    tailRest (line ++ c :: endpoint.text rest) = some rest := by
  have start := urlStarts_oneLine _ endpoint.listed
  have whole : '\n' ∉ line ++ c :: (endpoint.start ++ endpoint.secret) := by
    simp [oneLine, Ne.symm same, start, endpoint.oneLine]
  have split : line ++ c :: endpoint.text rest =
      line ++ c :: (endpoint.start ++ endpoint.secret) ++ endpoint.last :: rest := by
    simp [text]
  rw [split]
  cases line with
  | nil =>
    simp only [List.nil_append, List.cons_append, tailRest, same, if_false]
    exact lastWord_line (by simp [start, endpoint.oneLine]) endpoint.ends idle
  | cons d later =>
    simp only [List.cons_append, List.mem_cons, not_or] at whole
    simp only [List.cons_append, tailRest, Ne.symm whole.1, if_false]
    exact lastWord_line whole.2 endpoint.ends idle

theorem tailRest_text : tailRest (endpoint.text rest) = some rest := by
  have start := urlStarts_oneLine _ endpoint.listed
  obtain ⟨c, later, split⟩ := List.exists_cons_of_ne_nil (urlStarts_letter _ endpoint.listed).2
  rw [split] at start
  simp only [List.mem_cons, not_or] at start
  simp only [text, split, List.cons_append, tailRest, Ne.symm start.1, if_false]
  exact lastWord_line (by simp [start.2, endpoint.oneLine]) endpoint.ends idle

theorem tailRest_secret : tailRest (endpoint.secret ++ endpoint.last :: rest) = some rest := by
  have oneLine := endpoint.oneLine
  obtain ⟨c, later, split⟩ := List.exists_cons_of_ne_nil endpoint.long
  rw [split] at oneLine
  simp only [List.mem_cons, not_or] at oneLine
  simp only [split, List.cons_append, tailRest, Ne.symm oneLine.1, if_false]
  exact lastWord_line oneLine.2 endpoint.ends idle

end Endpoint

/-! ## Two texts that differ in an endpoint -/

/-- The match with one beginning of an endpoint. -/
def startAt (start later : List Char) : Option (List Char) :=
  if start <+: later then tailRest (later.drop start.length) else none

/-- Matches at the same place of two texts: none, one past the difference, or one before it. -/
inductive Alike (bound one two rest : List Char) : Option (List Char) → Option (List Char) → Prop
  | none : Alike bound one two rest none none
  | past : Alike bound one two rest (some rest) (some rest)
  | before {line : List Char} (shorter : line <:+ bound) :
      Alike bound one two rest (some (line ++ one)) (some (line ++ two))

theorem Alike.findSome {bound one two rest : List Char} {starts : List (List Char)}
    {f g : List Char → Option (List Char)}
    (each : ∀ start ∈ starts, Alike bound one two rest (f start) (g start)) :
    Alike bound one two rest (starts.findSome? f) (starts.findSome? g) := by
  induction starts with
  | nil => exact .none
  | cons start others ih =>
    have here := each start List.mem_cons_self
    have later := ih fun other member => each other (List.mem_cons_of_mem _ member)
    simp only [List.findSome?_cons]
    cases first : f start <;> cases second : g start <;> rw [first, second] at here
    · exact later
    · cases here
    · cases here
    · exact here

section Twins
variable {c : Char} {rest : List Char} (separator : isWord c = false) (idle : lastWord rest = none)
include separator idle

/-- A beginning that is not finished before the endpoint ends in its separator. -/
theorem startAt_straddling {start line : List Char} (listed : start ∈ urlStarts)
    (long : line.length < start.length) (endpoint : Endpoint) :
    startAt start (line ++ c :: endpoint.text rest) = if start = line ++ [c] then some rest else none := by
  unfold startAt
  by_cases fits : start = line ++ [c]
  · have split : line ++ c :: endpoint.text rest = start ++ endpoint.text rest := by simp [fits]
    rw [if_pos fits, split, if_pos (List.prefix_append _ _), List.drop_left]
    exact endpoint.tailRest_text idle
  · rw [if_neg fits, if_neg]
    intro begins
    obtain ⟨beyond, rfl⟩ := List.prefix_of_prefix_length_le (List.prefix_append line _) begins (Nat.le_of_lt long)
    rw [List.prefix_append_right_inj] at begins
    cases beyond with
    | nil => simp at long
    | cons d later =>
      obtain ⟨rfl, inside⟩ := List.cons_prefix_cons.mp begins
      have shape := urlStarts_slashed _ listed (d :: later)
        ((List.mem_tails _ _).mpr (List.suffix_append _ _))
      simp only [slashed, separator, Bool.false_or, Bool.or_eq_true, decide_eq_true_eq] at shape
      rcases shape with none | slash
      · exact fits (by rw [none])
      · -- The endpoint would have to start with a slash.
        obtain ⟨others, rfl⟩ := List.head?_eq_some_iff.mp slash
        obtain ⟨first, nonempty⟩ := urlStarts_letter _ endpoint.listed
        obtain ⟨e, letters, opening⟩ := List.exists_cons_of_ne_nil nonempty
        rw [Endpoint.text, opening, List.cons_append, List.cons_append,
          List.cons_prefix_cons] at inside
        rw [opening, ← inside.1] at first
        simp at first

theorem startAt_alike {start line : List Char} (listed : start ∈ urlStarts) (one two : Endpoint) :
    Alike line (c :: one.text rest) (c :: two.text rest) rest
      (startAt start (line ++ c :: one.text rest)) (startAt start (line ++ c :: two.text rest)) := by
  rcases Nat.lt_or_ge line.length start.length with long | short
  · rw [startAt_straddling separator idle listed long, startAt_straddling separator idle listed long]
    split
    · exact .past
    · exact .none
  · -- The beginning is inside the line.
    have inside : ∀ more, start <+: line ++ more ↔ start <+: line := fun more =>
      ⟨fun begins => List.prefix_of_prefix_length_le begins (List.prefix_append _ _) short,
        fun begins => begins.trans (List.prefix_append _ _)⟩
    simp only [startAt, inside, List.drop_append_of_le_length short]
    split
    · by_cases broken : '\n' ∈ line.drop start.length ∨ c = '\n'
      · have stops : ∀ endpoint : Endpoint, '\n' ∈ line.drop start.length ∨
            (c :: endpoint.text rest).head? = some '\n' := fun _ => broken.imp_right (congrArg some)
        rw [tailRest_broken (stops one), tailRest_broken (stops two)]
        cases found : tailRest (line.drop start.length) with
        | none => exact .none
        | some middle =>
          exact .before ((suffix_of_tailRest found).trans (List.drop_suffix _ _))
      · rw [not_or] at broken
        rw [one.tailRest_before idle broken.1 broken.2, two.tailRest_before idle broken.1 broken.2]
        exact .past
    · exact .none

/-- The endpoint itself is matched. -/
theorem rexAt_endpoint (endpoint : Endpoint) : rexAt (c :: endpoint.text rest) = some rest := by
  have each : ∀ start ∈ urlStarts, startAt start (endpoint.text rest) =
      if start = endpoint.start then some rest else none := by
    intro start listed
    unfold startAt
    by_cases same : start = endpoint.start
    · rw [if_pos same, same, Endpoint.text, List.append_assoc, if_pos (List.prefix_append _ _),
        List.drop_left]
      exact endpoint.tailRest_secret idle
    · rw [if_neg same, if_neg]
      intro begins
      have other : endpoint.start <+: endpoint.text rest := by
        rw [Endpoint.text, List.append_assoc]
        exact List.prefix_append _ _
      rcases List.prefix_or_prefix_of_prefix begins other with shorter | longer
      · exact same (urlStarts_apart _ listed _ endpoint.listed shorter)
      · exact same (urlStarts_apart _ endpoint.listed _ listed longer).symm
  have found : urlStarts.findSome? (startAt · (endpoint.text rest)) = some rest := by
    cases found : urlStarts.findSome? (startAt · (endpoint.text rest)) with
    | none =>
      have nowhere := List.findSome?_eq_none_iff.mp found endpoint.start endpoint.listed
      rw [each _ endpoint.listed, if_pos rfl] at nowhere
      cases nowhere
    | some other =>
      obtain ⟨start, listed, here⟩ := List.exists_of_findSome?_eq_some found
      rw [each start listed] at here
      exact (Option.ite_none_right_eq_some.mp here).2.symm
  rw [rexAt, separator]
  exact found

theorem rexAt_alike (d : Char) (line : List Char) (one two : Endpoint) :
    Alike line (c :: one.text rest) (c :: two.text rest) rest
      (rexAt (d :: (line ++ c :: one.text rest))) (rexAt (d :: (line ++ c :: two.text rest))) := by
  simp only [rexAt]
  cases isWord d with
  | true => exact .none
  | false => exact .findSome fun start listed => startAt_alike separator idle listed one two

theorem replaceAll_alike (before : List Char) (one two : Endpoint) :
    replaceAll rex redaction (before ++ c :: one.text rest) =
      replaceAll rex redaction (before ++ c :: two.text rest) := by
  -- By the length of what is before the endpoint: a match in it leaves less of it.
  induction length : before.length using Nat.strong_induction_on generalizing before with
  | _ size ih =>
    cases before with
    | nil =>
      have matched : ∀ endpoint : Endpoint,
          replaceAll rex redaction (c :: endpoint.text rest) = redaction ++ replaceAll rex redaction rest := by
        intro endpoint
        have found := rexAt_endpoint separator idle endpoint
        exact replaceAll_match ((head_rex _).trans found) (suffix_of_rexAt found)
      rw [List.nil_append, List.nil_append, matched one, matched two]
    | cons d line =>
      simp only [List.length_cons] at length
      have alike := rexAt_alike separator idle d line one two
      rw [List.cons_append, List.cons_append]
      generalize first : rexAt (d :: (line ++ c :: one.text rest)) = left at alike
      generalize second : rexAt (d :: (line ++ c :: two.text rest)) = right at alike
      cases alike with
      | none =>
        rw [replaceAll_skip ((head_rex _).trans first), replaceAll_skip ((head_rex _).trans second),
          ih line.length (by omega) line rfl]
      | past =>
        rw [replaceAll_match ((head_rex _).trans first) (suffix_of_rexAt first),
          replaceAll_match ((head_rex _).trans second) (suffix_of_rexAt second)]
      | @before middle shorter =>
        have fewer := shorter.length_le
        rw [replaceAll_match ((head_rex _).trans first) (suffix_of_rexAt first),
          replaceAll_match ((head_rex _).trans second) (suffix_of_rexAt second),
          ih middle.length (by omega) middle rfl]

end Twins

theorem redact_eq_replaceAll (text : List Char) : redact text = replaceAll rex redaction text := by
  unfold redact
  split
  · rfl
  · next unmatched =>
    rw [Option.not_isSome_iff_eq_none] at unmatched
    rw [replaceAll_of_find_none unmatched]

/-- Two error texts that differ in an endpoint only are shown as the same text: wherever the
endpoint stands behind a separator, whatever comes before it, and with any number of further
endpoints before and behind. -/
theorem redact_hides_endpoint {c : Char} (separator : isWord c = false) {rest : List Char}
    (idle : lastWord rest = none) (before : List Char) (one two : Endpoint) :
    redact (before ++ c :: one.text rest) = redact (before ++ c :: two.text rest) := by
  rw [redact_eq_replaceAll, redact_eq_replaceAll]
  exact replaceAll_alike separator idle before one two

/-- An endpoint with a password, and another one of another scheme and length. -/
theorem redact_hides_endpoint_password :
    redact "dial tcp: http://u:p@10.0.0.1:26657/status refused!\nretrying".toList =
      redact "dial tcp: wss://a.b!\nretrying".toList :=
  redact_hides_endpoint (c := ' ') (by decide) (by decide)
    "dial tcp:".toList
    { start := "http://".toList, listed := by decide
      secret := "u:p@10.0.0.1:26657/status refuse".toList, last := 'd'
      oneLine := by decide, long := by decide, ends := by decide }
    { start := "wss://".toList, listed := by decide, secret := "a.".toList, last := 'b'
      oneLine := by decide, long := by decide, ends := by decide }

end Seer.Dash
