import SpriteMachine.Number.Numeral

/-!
# How a decimal number is laid out

A layout decides which numbers are written without an exponent, whether a whole
number keeps a point and a zero, and how an exponent looks. The digits
themselves are given; a layout only places them.
-/

namespace SpriteMachine

/-- The choices left open by the digits of a number. A bound of `none` leaves
that side unlimited. -/
structure NumberLayout where
  lowestPositional : Option Int
  highestPositional : Option Int
  keepsPoint : Bool
deriving Repr

namespace NumberLayout

/-- Values, messages and answers: positional from `0.00001` up to below
`10 ^ 16`, always with a point there, and with a signed exponent elsewhere. -/
def value : NumberLayout := ⟨some (-5), some 15, true⟩

/-- Explanations of a refused number: always positional, without a point on a
whole number. -/
def plain : NumberLayout := ⟨none, none, false⟩

/-- Digits placed around the point according to the power of ten of the last
digit. -/
def positional (layout : NumberLayout) (digits : List Char) (exponent : Int) : String :=
  let point := (digits.length : Int) + exponent
  if 0 ≤ exponent then
    String.ofList (digits ++ List.replicate exponent.toNat '0') ++
      (if layout.keepsPoint then ".0" else "")
  else if 0 < point then
    String.ofList (digits.take point.toNat) ++ "." ++ String.ofList (digits.drop point.toNat)
  else
    "0." ++ String.ofList (List.replicate (-point).toNat '0' ++ digits)

/-- One digit before the point, the rest behind it, and a signed exponent. -/
def scientific (digits : List Char) (power : Int) : String :=
  let mantissa := match digits with
    | [] => ""
    | [digit] => String.ofList [digit]
    | digit :: rest => String.ofList (digit :: '.' :: rest)
  mantissa ++ "e" ++ (if power < 0 then "-" else "+") ++ toString power.natAbs

/-- The text of `± significand * 10 ^ exponent`. The power of the leading digit
decides between the two notations; zero is positional. -/
def write (layout : NumberLayout) (numeral : Numeral) : String :=
  let sign := if numeral.negative then "-" else ""
  if numeral.significand = 0 then
    sign ++ (if layout.keepsPoint then "0.0" else "0")
  else
    let digits := Nat.toDigits 10 numeral.significand
    let power := (digits.length : Int) - 1 + numeral.exponent
    let low := layout.lowestPositional.all (· ≤ power)
    let high := layout.highestPositional.all (power ≤ ·)
    sign ++ (if low && high then layout.positional digits numeral.exponent
      else scientific digits power)

end NumberLayout

end SpriteMachine
