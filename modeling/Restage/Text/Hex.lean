/-!
# Hexadecimal digits

Numbers written with a fixed count of lower-case digits, the highest first, and read back from
digits in either case.
-/

namespace Restage.Text.Hex

/-- The digit of a value below sixteen; larger values are taken modulo sixteen. -/
def digit (value : Nat) : Char :=
  if value % 16 < 10 then Char.ofNat (48 + value % 16) else Char.ofNat (87 + value % 16)

/-- The value of a digit, in either case. -/
def value? (c : Char) : Option Nat :=
  let code := c.toNat
  if 48 ≤ code ∧ code ≤ 57 then some (code - 48)
  else if 97 ≤ code ∧ code ≤ 102 then some (code - 87)
  else if 65 ≤ code ∧ code ≤ 70 then some (code - 55)
  else none

/-- The `width` lowest digits of a number, the highest of them first. -/
def digits : Nat → Nat → List Char
  | 0, _ => []
  | width + 1, number => digits width (number / 16) ++ [digit number]

/-- The number that digits stand for, none when one of the characters is no digit. -/
def read? : List Char → Option Nat :=
  go 0
where
  /-- Reads on behind digits that stand for `high`. -/
  go (high : Nat) : List Char → Option Nat
    | [] => some high
    | c :: rest =>
        match value? c with
        | some low => go (high * 16 + low) rest
        | none => none

@[simp] theorem length_digits (width number : Nat) : (digits width number).length = width := by
  induction width generalizing number with
  | zero => rfl
  | succ width ih => simp [digits, ih]

end Restage.Text.Hex
