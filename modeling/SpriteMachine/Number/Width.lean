/-!
# Widths of whole numbers

Counts, times and costume numbers are held in words of 32 or 64 bits. The bounds of
those words decide which numbers are accepted and where a count stops. Arithmetic on
words with a sign overflows where its word does not hold the exact result: what is
left then is that result counted around.
-/

namespace SpriteMachine.Width

/-- The greatest number of 64 bits without a sign. -/
def last64 : Nat := 18446744073709551615

/-- The greatest number of 32 bits without a sign. -/
def last32 : Nat := 4294967295

/-- The least number of 64 bits with a sign. -/
def low64 : Int := -9223372036854775808

/-- The greatest number of 64 bits with a sign. -/
def high64 : Int := 9223372036854775807

/-- The least number of 32 bits with a sign. -/
def low32 : Int := -2147483648

/-- The greatest number of 32 bits with a sign. -/
def high32 : Int := 2147483647

/-- A number counted around in a word of some bits with a sign. -/
def wrap (bits : Nat) (number : Int) : Int := (BitVec.ofInt bits number).toInt

/-- Whether a word of some bits with a sign holds a number. -/
def holds (bits : Nat) (number : Int) : Bool := wrap bits number = number

end SpriteMachine.Width
