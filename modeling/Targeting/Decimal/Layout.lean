import Targeting.Decimal.Shortest

/-!
# Writing numbers

A `Layout` holds every decision of a way to write numbers: where positional notation ends, how a
whole number ends, how an exponent is spelled, which shortest decimal wins a tie, and the words for
the values that have no digits. `Layout.write` turns a number into text by such a record.
-/

set_option autoImplicit false

namespace Targeting

/-- The decisions of a number format. -/
structure Layout where
  /-- Which of two equally near shortest decimals is written. -/
  tie : Decimal.Tie
  /-- Powers of the leading digit that are written positionally; others take an exponent. -/
  positional : Int → Bool
  /-- What follows a positional number without a fraction. -/
  wholeEnd : String
  /-- What stands before the digits of a positive exponent. -/
  exponentUp : String
  /-- What stands before the digits of a negative exponent. -/
  exponentDown : String
  /-- The word for a NaN of either sign. -/
  nanWord : String
  /-- The word for an infinity, after its sign. -/
  infinityWord : String

namespace Layout

/-- A run of zeros. -/
def zeros (n : Nat) : List Char :=
  List.replicate n '0'

/-- Digits with the point after the first `point` of them, padded with zeros on either side. -/
def positionalDigits (wholeEnd : List Char) (digits : List Char) (point : Int) : List Char :=
  if point ≤ 0 then
    '0' :: '.' :: zeros (-point).toNat ++ digits
  else if digits.length ≤ point.toNat then
    digits ++ zeros (point.toNat - digits.length) ++ wholeEnd
  else
    digits.take point.toNat ++ '.' :: digits.drop point.toNat

/-- Digits with the point after the first of them and a power of ten behind. -/
def scientificDigits (layout : Layout) (digits : List Char) (power : Int) : List Char :=
  let mantissa :=
    match digits with
    | [] => []
    | [d] => [d]
    | d :: ds => d :: '.' :: ds
  let exponent :=
    if power < 0 then layout.exponentDown.toList ++ Nat.toDigits 10 power.natAbs
    else layout.exponentUp.toList ++ Nat.toDigits 10 power.natAbs
  mantissa ++ exponent

/-- A decimal without its sign. -/
def digitsOf (layout : Layout) (d : Decimal) : List Char :=
  let digits := Nat.toDigits 10 d.coefficient
  if d.coefficient = 0 then positionalDigits layout.wholeEnd.toList digits 1
  else
    let point : Int := digits.length + d.exponent
    if layout.positional (point - 1) then positionalDigits layout.wholeEnd.toList digits point
    else layout.scientificDigits digits (point - 1)

/-- A number as text. -/
def write (layout : Layout) (x : Binary64) : String :=
  if x.isNaN then layout.nanWord
  else
    let sign : String := if x.isNegative then "-" else ""
    if x.isFinite then
      sign ++ String.ofList (layout.digitsOf (Decimal.shortest layout.tie x))
    else sign ++ layout.infinityWord

/-- Plain notation for people: never an exponent, and no fraction on a whole number. -/
def plain : Layout where
  tie := .up
  positional := fun _ => true
  wholeEnd := ""
  exponentUp := "e"
  exponentDown := "e-"
  nanWord := "NaN"
  infinityWord := "inf"

end Layout

end Targeting
