/-!
# Decimal numerals and how loose text spells them

A numeral is an exact decimal number: a sign, a natural significand and a power
of ten. Loose text spells a finite numeral, an infinity or an undefined number.
The reader accepts the whole text or refuses it; there is no partial reading.

The grammar is an optional sign followed by digits with at most one point and an
optional exponent, where at least one digit stands beside the point, or by one
of the words `inf`, `infinity` and `nan` in any letter case. No blank is
skipped here.
-/

namespace SpriteMachine

/-- The exact number `± significand * 10 ^ exponent`. A negative zero keeps its
sign. -/
structure Numeral where
  negative : Bool
  significand : Nat
  exponent : Int
deriving DecidableEq, Repr

/-- What a number's text can denote. -/
inductive NumberText where
  | finite (numeral : Numeral)
  | infinite (negative : Bool)
  | undefined
deriving DecidableEq, Repr

namespace Numeral

/-- The value of a digit string, most significant digit first. -/
def ofDigits (digits : List Char) : Nat :=
  digits.foldl (fun value digit => 10 * value + (digit.toNat - '0'.toNat)) 0

/-- A text split after its longest leading run of decimal digits. -/
def spanDigits (text : List Char) : List Char × List Char :=
  (text.takeWhile Char.isDigit, text.dropWhile Char.isDigit)

/-- An optional sign and the text behind it; no sign counts as plus. -/
def spanSign : List Char → Bool × List Char
  | '-' :: rest => (true, rest)
  | '+' :: rest => (false, rest)
  | text => (false, text)

/-- The exponent written behind a significand: nothing, or a mark, an optional
sign and at least one digit up to the end of the text. -/
def readExponent? : List Char → Option Int
  | [] => some 0
  | mark :: rest =>
    if mark = 'e' ∨ mark = 'E' then
      match spanSign rest with
      | (negative, digits) =>
        if digits ≠ [] ∧ digits.all Char.isDigit then
          some (if negative then -(ofDigits digits : Int) else ofDigits digits)
        else none
    else none

/-- An unsigned decimal with its exponent. The digits before and behind the
point form one significand, and each digit behind the point lowers the
exponent by one. -/
def readUnsigned? (negative : Bool) (text : List Char) : Option Numeral :=
  match spanDigits text with
  | (whole, rest) =>
    match (match rest with
      | '.' :: rest => spanDigits rest
      | rest => ([], rest)) with
    | (fraction, rest) =>
      if whole = [] ∧ fraction = [] then none
      else (readExponent? rest).map fun exponent =>
        ⟨negative, ofDigits (whole ++ fraction), exponent - fraction.length⟩

end Numeral

namespace NumberText

/-- The words that denote no finite number, compared without letter case. -/
def readWord? (negative : Bool) (text : List Char) : Option NumberText :=
  match String.ofList (text.map Char.toLower) with
  | "inf" => some (.infinite negative)
  | "infinity" => some (.infinite negative)
  | "nan" => some .undefined
  | _ => none

/-- The number that a whole text spells. -/
def read? (text : List Char) : Option NumberText :=
  match Numeral.spanSign text with
  | (negative, rest) =>
    match readWord? negative rest with
    | some word => some word
    | none => (Numeral.readUnsigned? negative rest).map .finite

end NumberText

end SpriteMachine
