/-!
# The magnitude of a number

A number is the product of its leading digits and a power of ten, each rounded
to 53 binary digits before they are multiplied. It is in range if the product
rounds to a finite floating-point number.
-/

set_option autoImplicit false

namespace StateNest.Magnitude

def decimal (digits : List Char) : Nat :=
  digits.foldl (fun value digit => 10 * value + (digit.toNat - 48)) 0

/-- The number that the leading digits spell, as many as 64 bits hold, and how many digits are
left. Given is the number that the digits before them spell. -/
def leading : Nat → List Char → Nat × Nat
  | value, [] => (value, 0)
  | value, digit :: digits =>
    let next := 10 * value + (digit.toNat - 48)
    if next < Nat.pow 2 64 then leading next digits else (value, digits.length + 1)

/-- The nearest number of 53 binary digits and zeros after them; a tie goes to the even one. -/
def rounded (value : Nat) : Nat :=
  let unit := Nat.pow 2 (value.log2 - 52)
  let below := value / unit
  let twice := 2 * (value % unit)
  if unit < twice ∨ (unit = twice ∧ below % 2 = 1) then (below + 1) * unit else below * unit

/-- The least number that rounds to infinity. -/
def limit : Nat := Nat.pow 2 1024 - Nat.pow 2 970

/-- The largest power of ten that is finite by itself. -/
def powerLimit : Nat := 308

/-- Whether the number with these digits before this power of ten is in range. Zero always is,
and so is a number that is no larger than its leading digits. -/
def isFinite (digits : List Char) (exponent : Int) : Bool :=
  let (value, left) := leading 0 digits
  let power := (exponent + left).toNat
  value = 0 || power = 0 ||
    (power ≤ powerLimit && rounded value * rounded (Nat.pow 10 power) < limit)

end StateNest.Magnitude
