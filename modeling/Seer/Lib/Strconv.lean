import Mathlib.Algebra.Order.Ring.Int
import Mathlib.Data.List.Basic

/-!
# Numbers and bytes as text

Go's `strconv.ParseInt` in base ten and for 64 bits, which returns a number beside its error,
and the hexadecimal text of a byte string. Both are read back as they are written.
-/
namespace Seer.Lib.Strconv

inductive Failure where
  | malformed
  | outOfRange
  deriving DecidableEq, Repr

/-! ## Decimal numbers -/

def maxUint64 : Nat := 2 ^ 64 - 1

/-- From here on, a further digit is out of range. -/
def cutoff : Nat := maxUint64 / 10 + 1

/-- The loop of `ParseUint`, which stops at the first digit that is out of range. -/
def parseDigits : List Char → Nat → Nat × Option Failure
  | [], sum => (sum, none)
  | digit :: later, sum =>
    if !digit.isDigit then (0, some .malformed)
    else if sum ≥ cutoff then (maxUint64, some .outOfRange)
    else
      let next := 10 * sum + (digit.toNat - '0'.toNat)
      if next > maxUint64 then (maxUint64, some .outOfRange) else parseDigits later next

def parseUint (text : List Char) : Nat × Option Failure :=
  if text = [] then (0, some .malformed) else parseDigits text 0

/-- A number out of range is returned as the nearest one that is not. -/
def signed (negative : Bool) (magnitude : Nat) : Int × Option Failure :=
  if !negative ∧ magnitude ≥ 2 ^ 63 then (2 ^ 63 - 1, some .outOfRange)
  else if negative ∧ magnitude > 2 ^ 63 then (-2 ^ 63, some .outOfRange)
  else (if negative then -magnitude else magnitude, none)

/-- Whether the number is negative, and what is behind the sign. -/
def splitSign : List Char → Bool × List Char
  | '+' :: later => (false, later)
  | '-' :: later => (true, later)
  | text => (false, text)

def parseInt (text : List Char) : Int × Option Failure :=
  match parseUint (splitSign text).2 with
  | (_, some .malformed) => (0, some .malformed)
  | (magnitude, _) => signed (splitSign text).1 magnitude

def Fits (number : Int) : Prop := -2 ^ 63 ≤ number ∧ number < 2 ^ 63

instance (number : Int) : Decidable (Fits number) := inferInstanceAs (Decidable (_ ∧ _))

theorem signed_of_lt {magnitude : Nat} (small : magnitude < 2 ^ 63) :
    signed false magnitude = (Int.ofNat magnitude, none) := by
  rw [signed, if_neg (by omega), if_neg (by simp)]
  rfl

theorem signed_of_le {magnitude : Nat} (small : magnitude + 1 ≤ 2 ^ 63) :
    signed true (magnitude + 1) = (Int.negSucc magnitude, none) := by
  rw [signed, if_neg (by simp), if_neg (by omega)]
  rfl

theorem fits_signed (negative : Bool) (magnitude : Nat) : Fits (signed negative magnitude).1 := by
  cases negative with
  | false =>
    by_cases large : magnitude ≥ 2 ^ 63
    · rw [signed, if_pos ⟨rfl, large⟩]
      decide
    · rw [signed_of_lt (by omega)]
      change -2 ^ 63 ≤ (magnitude : Int) ∧ (magnitude : Int) < 2 ^ 63
      omega
  | true =>
    by_cases large : magnitude > 2 ^ 63
    · rw [signed, if_neg (by simp), if_pos ⟨rfl, large⟩]
      decide
    · rw [signed, if_neg (by simp), if_neg (by omega)]
      change -2 ^ 63 ≤ -(magnitude : Int) ∧ -(magnitude : Int) < 2 ^ 63
      omega

/-- Whatever the text, the number returned has 64 bits. -/
theorem fits_parseInt (text : List Char) : Fits (parseInt text).1 := by
  unfold parseInt
  split
  · decide
  · exact fits_signed _ _

theorem le_ofDigitChars (text : List Char) (sum : Nat) : sum ≤ Nat.ofDigitChars 10 text sum := by
  induction text generalizing sum with
  | nil => exact Nat.le_refl sum
  | cons digit later ih =>
    have rest := ih (10 * sum + (digit.toNat - '0'.toNat))
    change sum ≤ Nat.ofDigitChars 10 later (10 * sum + (digit.toNat - '0'.toNat))
    omega

/-- A number that fits has no part that does not. -/
theorem parseDigits_value (text : List Char) (sum : Nat) (digits : ∀ c ∈ text, c.isDigit = true)
    (small : Nat.ofDigitChars 10 text sum ≤ maxUint64) :
    parseDigits text sum = (Nat.ofDigitChars 10 text sum, none) := by
  induction text generalizing sum with
  | nil => rfl
  | cons digit later ih =>
    have here : digit.isDigit = true := digits digit List.mem_cons_self
    have whole : Nat.ofDigitChars 10 (digit :: later) sum =
      Nat.ofDigitChars 10 later (10 * sum + (digit.toNat - '0'.toNat)) := rfl
    rw [whole] at small ⊢
    have low := le_ofDigitChars later (10 * sum + (digit.toNat - '0'.toNat))
    have below : ¬ sum ≥ cutoff := by
      unfold cutoff
      omega
    rw [parseDigits, here, if_neg below]
    simp only [Bool.not_true, Bool.false_eq_true, ↓reduceIte]
    rw [if_neg (by omega)]
    exact ih _ (fun c member => digits c (List.mem_cons_of_mem _ member)) small

theorem isDigit_of_mem_repr {number : Nat} {c : Char} (member : c ∈ number.repr.toList) :
    c.isDigit = true := by
  rw [Nat.toList_repr] at member
  exact Nat.isDigit_of_mem_toDigits (by decide) (by decide) member

theorem splitSign_digits {text : List Char} (digits : ∀ c ∈ text, c.isDigit = true) :
    splitSign text = (false, text) := by
  unfold splitSign
  split
  next later => exact absurd (digits '+' List.mem_cons_self) (by decide)
  next later => exact absurd (digits '-' List.mem_cons_self) (by decide)
  next => rfl

theorem parseUint_repr {number : Nat} (small : number ≤ maxUint64) :
    parseUint number.repr.toList = (number, none) := by
  have value : Nat.ofDigitChars 10 number.repr.toList 0 = number := by
    rw [Nat.toList_repr]
    exact Nat.ofDigitChars_toDigits (by decide) (by decide)
  have some : number.repr.toList ≠ [] := by
    rw [Nat.toList_repr]
    exact Nat.toDigits_ne_nil
  rw [parseUint, if_neg some, parseDigits_value _ _ fun c => isDigit_of_mem_repr, value]
  rw [value]
  exact small

/-- Every 64-bit number is read back from its text. -/
theorem parseInt_repr {number : Int} (fits : Fits number) :
    parseInt number.repr.toList = (number, none) := by
  obtain ⟨low, high⟩ := fits
  cases number with
  | ofNat n =>
    have below : (n : Int) < 2 ^ 63 := high
    have small : n ≤ maxUint64 := by
      unfold maxUint64
      omega
    have plain : splitSign (Int.ofNat n).repr.toList = (false, n.repr.toList) :=
      splitSign_digits fun c => isDigit_of_mem_repr
    rw [parseInt, plain, parseUint_repr small]
    exact signed_of_lt (by omega)
  | negSucc n =>
    have small : n + 1 ≤ maxUint64 := by
      unfold maxUint64
      omega
    have minus : splitSign (Int.negSucc n).repr.toList = (true, (n + 1).repr.toList) := by
      rw [Int.repr, String.toList_append]
      rfl
    rw [parseInt, minus, parseUint_repr small]
    exact signed_of_le (by omega)

/-! ## Hexadecimal bytes -/

def hexPair (byte : UInt8) : List Char :=
  [Nat.digitChar (byte.toNat / 16), Nat.digitChar (byte.toNat % 16)]

/-- `hex.EncodeToString`. -/
def encodeHex (bytes : List UInt8) : List Char := bytes.flatMap hexPair

def fromHexChar (c : Char) : Option Nat :=
  if '0' ≤ c ∧ c ≤ '9' then some (c.toNat - '0'.toNat)
  else if 'a' ≤ c ∧ c ≤ 'f' then some (c.toNat - 'a'.toNat + 10)
  else if 'A' ≤ c ∧ c ≤ 'F' then some (c.toNat - 'A'.toNat + 10)
  else none

/-- The bytes that `hex.DecodeString` returns, also beside an error: those before it. -/
def decodeHex : List Char → List UInt8
  | high :: low :: later => match fromHexChar high, fromHexChar low with
    | some a, some b => UInt8.ofNat (a * 16 + b) :: decodeHex later
    | _, _ => []
  | _ => []

theorem lower_upper_digitChar :
    ∀ value < 16, (Nat.digitChar value).toUpper.toLower = Nat.digitChar value := by
  decide

theorem fromHexChar_digitChar : ∀ value < 16, fromHexChar (Nat.digitChar value) = some value := by
  decide

theorem decodeHex_encodeHex (bytes : List UInt8) : decodeHex (encodeHex bytes) = bytes := by
  induction bytes with
  | nil => rfl
  | cons byte later ih =>
    have small := byte.toNat_lt
    have high := fromHexChar_digitChar (byte.toNat / 16) (by omega)
    have low := fromHexChar_digitChar (byte.toNat % 16) (by omega)
    have whole : byte.toNat / 16 * 16 + byte.toNat % 16 = byte.toNat := by omega
    change (match fromHexChar (Nat.digitChar (byte.toNat / 16)),
        fromHexChar (Nat.digitChar (byte.toNat % 16)) with
      | some a, some b => UInt8.ofNat (a * 16 + b) :: decodeHex (encodeHex later)
      | _, _ => []) = byte :: later
    rw [high, low, ih]
    simp only [whole, UInt8.ofNat_toNat]

theorem lower_upper_encodeHex (bytes : List UInt8) :
    ((encodeHex bytes).map Char.toUpper).map Char.toLower = encodeHex bytes := by
  induction bytes with
  | nil => rfl
  | cons byte later ih =>
    have small := byte.toNat_lt
    have high := lower_upper_digitChar (byte.toNat / 16) (by omega)
    have low := lower_upper_digitChar (byte.toNat % 16) (by omega)
    simp only [encodeHex, List.flatMap_cons, hexPair, List.map_append, List.map_cons, List.map_nil,
      high, low] at ih ⊢
    rw [ih]

end Seer.Lib.Strconv
