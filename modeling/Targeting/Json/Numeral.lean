import Targeting.Binary64.Arithmetic
import Targeting.Json.Basic

/-!
# The value of a number's digits

The digits of a number are gathered in a word of 64 bits for as long as the word holds them. What is
gathered becomes a number of 64 bits, and that is scaled by the power of ten of the last digit
gathered. So up to three roundings happen on the way, and the number read need not be the nearest
one: `110.00000000000001` is read as `110`.
-/

set_option autoImplicit false

namespace Targeting.Json

/-- Gathers digits behind those gathered before, up to the first that a word does not hold any more;
from there on they are left over. -/
def gather (gathered : Nat) : List Char → Nat × List Char
  | [] => (gathered, [])
  | d :: ds =>
    let next := 10 * gathered + (d.toNat - '0'.toNat)
    if next < Nat.pow 2 64 then gather next ds else (gathered, d :: ds)

namespace Number

/-- A number in 64 bits, if it is in range. -/
def real? (x : Binary64) : Option Number :=
  if h : x.isFinite = true then some (.real x h) else none

/-- A number of 64 bits with a sign before it. -/
def signed? (negative : Bool) (x : Binary64) : Option Number :=
  real? (if negative then x.neg else x)

/-- A whole number that a word holds. Minus zero is no integer, and neither is what is below the
signed words. -/
def whole? (negative : Bool) (n : Nat) : Option Number :=
  let value : Int := if negative then -(n : Int) else n
  if h : FitsWord value ∧ ¬(negative = true ∧ n = 0) then some (.int value h.1)
  else signed? negative (.ofInt n)

/-- The number with some digits in front of the point, some behind it and a power of ten behind
them; none if it is too large. Once a digit in front was left over, those behind the point are
gathered all the same. -/
def ofDigits? (negative : Bool) (front back : List Char) (exponent : Option Int) : Option Number :=
  let (n, dropped) := gather 0 front
  match dropped, back, exponent with
  | [], [], none => whole? negative n
  | _, _, _ =>
    let (n, unread) := gather n back
    let places : Int := back.length - unread.length
    signed? negative ((Binary64.ofInt n).scale (dropped.length - places + exponent.getD 0))

end Number

end Targeting.Json
