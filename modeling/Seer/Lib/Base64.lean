import Mathlib.Data.List.Basic
import Mathlib.Data.UInt

/-!
# Base64

The standard alphabet with padding. The decoder is lenient in two ways: line ends may stand
anywhere, and the bits that padding cuts off may be anything. An error is the position of the
byte at which decoding stops. What is encoded is decoded again.
-/
namespace Seer.Lib.Base64

/-- The character for six bits. -/
def digit (bits : Nat) : UInt8 :=
  UInt8.ofNat <| if bits < 26 then 65 + bits else if bits < 52 then 71 + bits
    else if bits < 62 then bits - 4 else if bits = 62 then 43 else 47

/-- The six bits of a character of the alphabet. -/
def value (char : UInt8) : Option Nat :=
  let code := char.toNat
  if 65 ≤ code ∧ code ≤ 90 then some (code - 65)
  else if 97 ≤ code ∧ code ≤ 122 then some (code - 71)
  else if 48 ≤ code ∧ code ≤ 57 then some (code + 4)
  else if code = 43 then some 62
  else if code = 47 then some 63
  else none

/-- The equals sign. -/
def padding : UInt8 := 61

def lineEnd (char : UInt8) : Bool := char = 10 ∨ char = 13

/-! Three bytes are four digits. -/

section Groups
variable (a b c d : Nat)

def first : Nat := a / 4
def second : Nat := a % 4 * 16 + b / 16
def third : Nat := b % 16 * 4 + c / 64
def fourth : Nat := c % 64

def high : UInt8 := UInt8.ofNat (a * 4 + b / 16)
def middle : UInt8 := UInt8.ofNat (b % 16 * 16 + c / 4)
def low : UInt8 := UInt8.ofNat (c % 4 * 64 + d)

end Groups

def encode : List UInt8 → List UInt8
  | a :: b :: c :: rest =>
    digit (first a.toNat) :: digit (second a.toNat b.toNat) :: digit (third b.toNat c.toNat) ::
      digit (fourth c.toNat) :: encode rest
  | [a, b] =>
    [digit (first a.toNat), digit (second a.toNat b.toNat), digit (third b.toNat 0), padding]
  | [a] => [digit (first a.toNat), digit (second a.toNat 0), padding, padding]
  | [] => []

/-- Nothing may follow the padding. -/
def finish (bytes : List UInt8) : List (UInt8 × Nat) → Except Nat (List UInt8)
  | [] => .ok bytes
  | (_, position) :: _ => .error position

/-- The characters come with their positions in a text of the given size. -/
def decodeQuanta (size : Nat) : List (UInt8 × Nat) → Except Nat (List UInt8)
  | [] => .ok []
  | (char, position) :: rest => match value char with
    | none => .error position
    | some a => match rest with
      | [] => .error (size - 1)
      | (char, position) :: rest => match value char with
        | none => .error position
        | some b => match rest with
          | [] => .error (size - 2)
          | (char, position) :: rest => match value char with
            | none =>
              if char ≠ padding then .error position
              else match rest with
                | [] => .error size
                | (char, position) :: rest =>
                  if char ≠ padding then .error (position - 1) else finish [high a b] rest
            | some c => match rest with
              | [] => .error (size - 3)
              | (char, position) :: rest => match value char with
                | none =>
                  if char ≠ padding then .error position else finish [high a b, middle b c] rest
                | some d =>
                  (decodeQuanta size rest).map (high a b :: middle b c :: low c d :: ·)

def decode (text : List UInt8) : Except Nat (List UInt8) :=
  decodeQuanta text.length (text.zipIdx.filter fun (char, _) => !lineEnd char)

/-! ## The round trip -/

theorem value_digit {bits : Nat} (small : bits < 64) : value (digit bits) = some bits := by
  have all : ∀ bits : Fin 64, value (digit bits) = some bits.val := by decide
  exact all ⟨bits, small⟩

theorem value_padding : value padding = none := by decide

theorem lineEnd_digit (bits : Nat) : lineEnd (digit bits) = false := by
  by_cases small : bits < 63
  · have all : ∀ bits : Fin 63, lineEnd (digit bits) = false := by decide
    exact all ⟨bits, small⟩
  · have last : digit bits = 47 := by
      unfold digit
      simp only [show ¬ bits < 26 by omega, show ¬ bits < 52 by omega, show ¬ bits < 62 by omega,
        show ¬ bits = 62 by omega, if_false]
      rfl
    rw [last]
    decide

section Bytes
variable (a b c : UInt8)

theorem first_lt : first a.toNat < 64 := by
  have := a.toNat_lt
  unfold first
  omega

theorem second_lt (n : Nat) (small : n < 256) : second a.toNat n < 64 := by
  unfold second
  omega

theorem third_lt (n : Nat) (small : n < 256) : third b.toNat n < 64 := by
  unfold third
  omega

theorem fourth_lt : fourth c.toNat < 64 := Nat.mod_lt _ (by decide)

theorem high_eq (n : Nat) (small : n < 256) : high (first a.toNat) (second a.toNat n) = a := by
  have same : first a.toNat * 4 + second a.toNat n / 16 = a.toNat := by
    unfold first second
    omega
  rw [high, same, UInt8.ofNat_toNat]

theorem middle_eq (n : Nat) (small : n < 256) :
    middle (second a.toNat b.toNat) (third b.toNat n) = b := by
  have bound := b.toNat_lt
  have same : second a.toNat b.toNat % 16 * 16 + third b.toNat n / 4 = b.toNat := by
    unfold second third
    omega
  rw [middle, same, UInt8.ofNat_toNat]

theorem low_eq : low (third b.toNat c.toNat) (fourth c.toNat) = c := by
  have bound := c.toNat_lt
  have same : third b.toNat c.toNat % 4 * 64 + fourth c.toNat = c.toNat := by
    unfold third fourth
    omega
  rw [low, same, UInt8.ofNat_toNat]

end Bytes

/-- Group by group, wherever the text starts. -/
theorem decodeQuanta_encode (size : Nat) (data : List UInt8) (start : Nat) :
    decodeQuanta size ((encode data).zipIdx start) = .ok data := by
  fun_induction encode data generalizing start with
  | case1 a b c rest ih =>
    have bound := b.toNat_lt
    have bound' := c.toNat_lt
    simp only [List.zipIdx_cons, decodeQuanta, value_digit (first_lt a), value_digit (second_lt a _ bound),
      value_digit (third_lt b _ bound'), value_digit (fourth_lt c), ih, Except.map, high_eq a _ bound,
      middle_eq a b _ bound', low_eq b c]
  | case2 a b =>
    have bound := b.toNat_lt
    simp only [List.zipIdx_cons, List.zipIdx_nil, decodeQuanta, value_digit (first_lt a),
      value_digit (second_lt a _ bound), value_digit (third_lt b 0 (by decide)), value_padding,
      finish, high_eq a _ bound, middle_eq a b 0 (by decide), ne_eq, not_true_eq_false, if_false]
  | case3 a =>
    simp only [List.zipIdx_cons, List.zipIdx_nil, decodeQuanta, value_digit (first_lt a),
      value_digit (second_lt a 0 (by decide)), value_padding, finish, high_eq a 0 (by decide),
      ne_eq, not_true_eq_false, if_false]
  | case4 => rfl

theorem encode_no_lineEnd (data : List UInt8) : ∀ char ∈ encode data, lineEnd char = false := by
  have pad : lineEnd padding = false := by decide
  fun_induction encode data with
  | case1 a b c rest ih => simpa [lineEnd_digit] using ih
  | case2 a b => simp [lineEnd_digit, pad]
  | case3 a => simp [lineEnd_digit, pad]
  | case4 => simp

theorem decode_encode (data : List UInt8) : decode (encode data) = .ok data := by
  have all : (encode data).zipIdx.filter (fun (char, _) => !lineEnd char) = (encode data).zipIdx := by
    rw [List.filter_eq_self]
    rintro ⟨char, position⟩ member
    simp [encode_no_lineEnd data char (List.fst_mem_of_mem_zipIdx member)]
  rw [decode, all]
  exact decodeQuanta_encode _ data 0

example : encode [77, 97] = "TWE=".toUTF8.toList := by decide +kernel

example : decode "TW\nE=\n".toUTF8.toList = .ok [77, 97] := by decide +kernel

example : decode "TWE".toUTF8.toList = .error 0 := by decide +kernel

end Seer.Lib.Base64
