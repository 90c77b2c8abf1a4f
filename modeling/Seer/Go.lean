import Mathlib.Algebra.Group.Int.Defs
import Mathlib.Algebra.Group.Nat.Defs
import Mathlib.Data.Int.Basic

/-! The parts of the Go runtime that the program's behaviour rests on. -/
namespace Seer

/-- `time.Time`, in nanoseconds since its zero value (January 1 of year 1, UTC). -/
abbrev Time : Type := Int

/-- `time.Duration`, a 64-bit count of nanoseconds. -/
abbrev Duration : Type := Int

def Time.isZero (t : Time) : Bool := t == 0

/-- `time.Unix(0, 0)`, which is not the zero value. -/
def unixEpoch : Time := 62135596800 * 10 ^ 9

/-- A reading of `time.Now()`. A system clock cannot be set before the Unix epoch, so
a reading is never the zero value. -/
abbrev Instant : Type := {now : Time // unixEpoch ≤ now}

theorem Instant.ne_zero (now : Instant) : now.val ≠ 0 := by
  have positive : 0 < unixEpoch := by decide
  exact Int.ne_of_gt (Int.lt_of_lt_of_le positive now.property)

/-- A later reading of the clock, `elapsed` nanoseconds after the first. -/
def Instant.after (now : Instant) (elapsed : Nat) : Instant :=
  ⟨now.val + elapsed, Int.le_trans now.property (Int.le_add_of_nonneg_right (Int.natCast_nonneg _))⟩

def second : Duration := 10 ^ 9

def minute : Duration := 60 * second

/-- Two's complement wrap-around of 64-bit arithmetic. -/
def wrap64 (n : Int) : Int := n.bmod (2 ^ 64)

theorem wrap64_lt (n : Int) : wrap64 n < 2 ^ 63 := by
  unfold wrap64
  rw [Int.bmod_def]
  omega

theorem wrap64_of_bounds {n : Int} (nonneg : 0 ≤ n) (small : n < 2 ^ 63) : wrap64 n = n := by
  unfold wrap64
  rw [Int.bmod_def]
  omega

/-- `time.Duration(n) * time.Minute`. -/
def minutes (n : Int) : Duration := wrap64 (n * minute)

/-- A whole number of minutes is even, so it misses the largest duration. -/
theorem minutes_bounds (n : Int) : -2 ^ 63 ≤ minutes n ∧ minutes n < 2 ^ 63 - 1 := by
  unfold minutes wrap64 minute second Duration
  simp only [Int.bmod_def]
  omega

/-- `now.Sub(t)`: saturates at the ends of the 64-bit range instead of wrapping. -/
def Time.sub (now t : Time) : Duration := max (-2 ^ 63) (min (2 ^ 63 - 1) (now - t))

/-- Go error values, as far as their texts and `errors.Is(err, os.ErrNotExist)` go. -/
inductive GoError where
  | notExist
  | text (message : String)
  | wrap (context : String) (cause : GoError)
  | join (first second : GoError)
  deriving DecidableEq, Repr

namespace GoError

/-- `errors.Is(err, os.ErrNotExist)`. -/
def isNotExist : GoError → Bool
  | notExist => true
  | text _ => false
  | wrap _ cause => cause.isNotExist
  | join first second => first.isNotExist || second.isNotExist

/-- `err.Error()`; `fmt.Errorf` puts the context before the cause. -/
def message : GoError → String
  | notExist => "file does not exist"
  | text message => message
  | wrap context cause => context ++ ": " ++ cause.message
  | join first second => first.message ++ "\n" ++ second.message

/-- `errors.Join` of two possibly nil errors. -/
def joined : Option GoError → Option GoError → Option GoError
  | none, second => second
  | some first, none => some first
  | some first, some second => some (.join first second)

end GoError

/-- `[]byte(text)`. -/
def utf8 (text : String) : List UInt8 := text.toList.flatMap String.utf8EncodeChar

end Seer
