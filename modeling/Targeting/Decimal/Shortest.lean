import Targeting.Binary64.Rounding

/-!
# The shortest decimal that reads back

`shortest` finds the decimal with the fewest digits that rounds back to a given number. The value's
two neighbours on the grid of `n` significant digits are tried for `n = 1, 2, …, 17`; the first grid
with a neighbour that reads back wins, and of two such neighbours the nearer one. Two neighbours at
the same distance are a tie, which a format decides (`Tie`). If no grid answers, the exact expansion
of the value is given, so the result reads back whatever the search does.
-/

set_option autoImplicit false

namespace Targeting

/-- A decimal `coefficient * 10 ^ exponent`. -/
structure Decimal where
  coefficient : Nat
  exponent : Int
deriving DecidableEq, Repr

namespace Decimal

/-- Which of two equally near decimals of the same length is written. -/
inductive Tie where
  | even
  | up
deriving DecidableEq, Repr

/-- The same value without trailing zeros of the coefficient. The first argument bounds how many
are dropped. -/
def trim : Nat → Decimal → Decimal
  | 0, d => d
  | n + 1, d =>
    if d.coefficient % 10 = 0 ∧ d.coefficient ≠ 0 then
      trim n ⟨d.coefficient / 10, d.exponent + 1⟩
    else d

/-- Does the decimal round to the magnitude with this pattern? -/
def readsBack (pattern : Nat) (d : Decimal) : Bool :=
  Binary64.decimalPattern d.coefficient d.exponent == pattern

/-- The power `k` of ten with `10 ^ (k - 1) ≤ num / den < 10 ^ k`, for a positive quotient. -/
def leadingPower (num den : Nat) : Int :=
  if den ≤ num then digitCount (num / den)
  else
    let below : Int := 1 - digitCount (den / num)
    if den ≤ num * Nat.pow 10 (-below).toNat then below + 1 else below

/-- The neighbours of `num / den` on the grid of multiples of `10 ^ exponent`: the largest multiple
not above it, and how the value compares with the middle between that one and the next. -/
def neighbour (num den : Nat) (exponent : Int) : Nat × Ordering :=
  let top := if 0 ≤ exponent then num else num * Nat.pow 10 (-exponent).toNat
  let bottom := if 0 ≤ exponent then den * Nat.pow 10 exponent.toNat else den
  (top / bottom, compare (2 * (top % bottom)) bottom)

/-- The decimal of a grid that reads back to `pattern`, if there is one: the nearer of the two
neighbours, or the one the format chooses. -/
def onGrid? (tie : Tie) (pattern num den : Nat) (exponent : Int) : Option Decimal :=
  let (low, side) := neighbour num den exponent
  let down : Decimal := ⟨low, exponent⟩
  let up : Decimal := ⟨low + 1, exponent⟩
  match readsBack pattern down, readsBack pattern up with
  | false, false => none
  | true, false => some down
  | false, true => some up
  | true, true =>
    match side with
    | .lt => some down
    | .gt => some up
    | .eq =>
      match tie with
      | .up => some up
      | .even => if low % 2 = 0 then some down else some up

/-- The finest grid that is searched has this many significant digits. -/
def mostDigits : Nat := 17

/-- The shortest decimal that reads back to the absolute value of a finite number. -/
def shortest (tie : Tie) (x : Binary64) : Decimal :=
  let num := x.magnitude
  let den := Nat.pow 2 1074
  let pattern := x.bits.toNat % Nat.pow 2 63
  if num = 0 then ⟨0, 0⟩
  else
    let power := leadingPower num den
    let grids := (List.range mostDigits).map fun (n : Nat) => power - (n : Int) - 1
    match grids.findSome? (onGrid? tie pattern num den) with
    | some d => trim mostDigits d
    | none => ⟨num * Nat.pow 5 1074, -1074⟩

end Decimal

end Targeting
